import JvmSchema.Proofs.RepeatedTypes

/-!
# Writing table files

There is a table file for every list of types, whatever their names and descriptors contain
(`listedIn_fileText`). A value made of texts, truth values and arrays is written on one line, every
character of a text as an escape and a comma after every item of an array. What is written is read
back whatever follows it but a quote (`value?_write`), and a line of it is a document
(`parse_document`). A type is written as such a value by giving its fields in their order
(`typeInfoForm_toToml`).
-/

set_option autoImplicit false
set_option relaxedAutoImplicit false

namespace JvmSchema

namespace Toml

/-! ### Escaped characters -/

/-- The last `count` hexadecimal digits of a number. -/
def hexDigits : Nat → Nat → List Char
  | 0, _ => []
  | count + 1, number => hexDigits count (number / 16) ++ [Nat.digitChar (number % 16)]

theorem length_hexDigits (count number : Nat) : (hexDigits count number).length = count := by
  induction count generalizing number with
  | zero => rfl
  | succ count ih => rw [hexDigits, List.length_append, ih, List.length_singleton]

theorem hexDigit?_digitChar : ∀ digit < 16, Text.hexDigit? (Nat.digitChar digit) = some digit := by
  decide

theorem hexValue?_hexDigits {count number : Nat} (h : number < Nat.pow 16 count) :
    Text.hexValue? (hexDigits count number) = some number := by
  induction count generalizing number with
  | zero =>
    have hzero : number = 0 := Nat.lt_one_iff.1 h
    rw [hzero]
    rfl
  | succ count ih =>
    have hquotient : number / 16 < Nat.pow 16 count := by
      change number < Nat.pow 16 count * 16 at h
      omega
    have hfold := ih hquotient
    rw [Text.hexValue?] at hfold
    rw [hexDigits, Text.hexValue?, List.foldlM_append, hfold]
    change (Text.hexDigit? (Nat.digitChar (number % 16))).map (number / 16 * 16 + ·) >>= pure = _
    rw [hexDigit?_digitChar _ (Nat.mod_lt _ (by decide))]
    exact congrArg some (Nat.div_add_mod' number 16)

/-- A character as an escape in eight digits. -/
def escapedChar (char : Char) : List Char :=
  '\\' :: 'U' :: hexDigits 8 char.toNat

theorem codePoint?_hexDigits (char : Char) (rest : List Char) :
    codePoint? 8 (hexDigits 8 char.toNat ++ rest) = some (char, rest) := by
  have hlength := length_hexDigits 8 char.toNat
  have hlt : char.toNat < Nat.pow 16 8 := by
    have hvalid : char.toNat.isValidChar := char.valid
    unfold Nat.isValidChar at hvalid
    have hpow : Nat.pow 16 8 = 4294967296 := rfl
    omega
  have htake : (hexDigits 8 char.toNat ++ rest).take 8 = hexDigits 8 char.toNat :=
    List.take_left' hlength
  have hdrop : (hexDigits 8 char.toNat ++ rest).drop 8 = rest := List.drop_left' hlength
  have hvalid : char.toNat.isValidChar := char.valid
  rw [codePoint?, htake, hdrop, hexValue?_hexDigits hlt]
  simp [hlength, hvalid]

theorem lineText_escaped {text rest : List Char} {fuel : Nat} (h : text.length < fuel) :
    lineText '"' true (text.flatMap escapedChar ++ '"' :: rest) fuel = some (text, rest) := by
  induction text generalizing fuel with
  | nil =>
    obtain ⟨fuel, rfl⟩ := Nat.exists_eq_succ_of_ne_zero (Nat.ne_of_gt h)
    rfl
  | cons char text ih =>
    obtain ⟨fuel, rfl⟩ := Nat.exists_eq_succ_of_ne_zero (Nat.ne_of_gt (Nat.zero_lt_of_lt h))
    have hrest : lineText '"' true (text.flatMap escapedChar ++ '"' :: rest) fuel =
        some (text, rest) := ih (Nat.lt_of_succ_lt_succ h)
    have hescape : escape? ('U' :: (hexDigits 8 char.toNat ++
        (text.flatMap escapedChar ++ '"' :: rest))) =
          some (char, text.flatMap escapedChar ++ '"' :: rest) :=
      codePoint?_hexDigits char _
    rw [List.flatMap_cons, List.append_assoc, escapedChar, List.cons_append, List.cons_append,
      lineText]
    simp [hescape, hrest, Text.prepend]

/-! ### Values -/

mutual

/-- A value on one line, if it is made of texts, truth values and arrays. -/
def Value.write : Value → List Char
  | .text text => '"' :: (text.toList.flatMap escapedChar ++ ['"'])
  | .boolean true => ['t', 'r', 'u', 'e']
  | .boolean false => ['f', 'a', 'l', 's', 'e']
  | .array items => '[' :: writeItems items
  | _ => []

/-- The items of an array and its closing bracket. -/
def writeItems : List Value → List Char
  | [] => [']']
  | item :: rest => item.write ++ ',' :: writeItems rest

end

/-- A value of texts, truth values and arrays, with at most `depth` arrays within each other. -/
inductive Plain : Nat → Value → Prop
  | text {depth : Nat} (text : String) : Plain depth (.text text)
  | boolean {depth : Nat} (truth : Bool) : Plain depth (.boolean truth)
  | array {depth : Nat} {items : List Value} (h : ∀ item ∈ items, Plain depth item) :
    Plain (depth + 1) (.array items)

/-- The value at this depth is read back from what is written, if no quote follows it. -/
def ReadsBack (depth : Nat) (value : Value) : Prop :=
  ∀ rest : List Char, rest.head? ≠ some '"' →
    value? depth (value.write ++ rest) = some (value, rest)

theorem length_flatMap_escapedChar (text : List Char) :
    (text.flatMap escapedChar).length = 10 * text.length := by
  induction text with
  | nil => rfl
  | cons char text ih =>
    rw [List.flatMap_cons, List.length_append, ih, escapedChar, List.length_cons, List.length_cons,
      length_hexDigits, List.length_cons]
    omega

theorem string?_of_not_block {text : List Char} (h : ∀ rest, text ≠ '"' :: '"' :: rest) :
    string? ('"' :: text) = line? '"' true text := by
  rw [string?.eq_def]
  split
  next rest heq => exact absurd (List.cons.inj heq).2 (h rest)
  next heq => simp at heq
  next heq => rw [(List.cons.inj heq).2]
  next heq => simp at heq
  next hquote _ => exact absurd rfl (hquote text)

theorem string?_escaped {text rest : List Char} (h : rest.head? ≠ some '"') :
    string? ('"' :: (text.flatMap escapedChar ++ '"' :: rest)) = some (text, rest) := by
  have hblock : ∀ tail, text.flatMap escapedChar ++ '"' :: rest ≠ '"' :: '"' :: tail := by
    intro tail heq
    cases text with
    -- An empty text is two quotes, which a third one would turn into the start of a block.
    | nil => exact h (by rw [(List.cons.inj heq).2, List.head?_cons])
    | cons char text => simp [escapedChar] at heq
  rw [string?_of_not_block hblock, line?]
  refine lineText_escaped ?_
  rw [List.length_append, length_flatMap_escapedChar]
  omega

/-- A quote starts no number, date or time. -/
theorem startsDatetime_quote (text : List Char) : startsDatetime ('"' :: text) = false := by
  simp [startsDatetime, startsDate, startsTime, startsDigits, digits?]

theorem readsBack_text (depth : Nat) (text : String) : ReadsBack depth (.text text) := by
  intro rest hrest
  have hwrite : (Value.text text).write ++ rest =
      '"' :: (text.toList.flatMap escapedChar ++ '"' :: rest) := by
    simp [Value.write]
  have hscalar : scalar? ('"' :: (text.toList.flatMap escapedChar ++ '"' :: rest)) =
      some (.text text, rest) := by
    have hdatetime := startsDatetime_quote (text.toList.flatMap escapedChar ++ '"' :: rest)
    rw [scalar?.eq_3 _ (by simp) (by simp), if_neg (by simp [hdatetime]), string?_escaped hrest]
    simp
  rw [hwrite]
  cases depth with
  | zero => exact hscalar
  | succ depth => exact hscalar

theorem readsBack_boolean (depth : Nat) (truth : Bool) : ReadsBack depth (.boolean truth) := by
  intro rest _
  cases truth <;> cases depth <;> rfl

/-- The first character of a written value belongs to no gap and closes no array. -/
theorem write_eq_cons {depth : Nat} {value : Value} (h : Plain depth value) :
    ∃ first tail, value.write = first :: tail ∧ first ∈ ['"', 't', 'f', '['] := by
  cases h with
  | text text => exact ⟨_, _, by rw [Value.write], by decide⟩
  | boolean truth =>
    cases truth with
    | true => exact ⟨_, _, by rw [Value.write], by decide⟩
    | false => exact ⟨_, _, by rw [Value.write], by decide⟩
  | array h => exact ⟨_, _, by rw [Value.write], by decide⟩

theorem skipGap_of_mem {first : Char} (h : first ∈ ['"', 't', 'f', '[', ',', ']'])
    (rest : List Char) : skipGap (first :: rest) = first :: rest := by
  simp only [List.mem_cons, List.not_mem_nil, or_false] at h
  rcases h with rfl | rfl | rfl | rfl | rfl | rfl <;> rfl

theorem arrayItems_succ {item : List Char → Option (Value × List Char)} {text after : List Char}
    {value : Value} (hgap : skipGap text = text) (hopen : ∀ rest, text ≠ ']' :: rest)
    (hitem : item text = some (value, ',' :: after)) (fuel : Nat) :
    arrayItems item text (fuel + 1) =
      (arrayItems item after fuel).map fun (values, rest) ↦ (value :: values, rest) := by
  have hcomma : skipGap (',' :: after) = ',' :: after := skipGap_of_mem (by decide) after
  rw [arrayItems, hgap]
  split
  next rest => exact absurd rfl (hopen rest)
  next =>
    simp only [hitem, Option.bind_eq_bind, Option.bind_some, hcomma]
    cases arrayItems item after fuel <;> rfl

theorem arrayItems_writeItems {depth : Nat} {items : List Value}
    (hplain : ∀ item ∈ items, Plain depth item) (hback : ∀ item ∈ items, ReadsBack depth item)
    {fuel : Nat} (hfuel : items.length < fuel) (rest : List Char) :
    arrayItems (value? depth) (writeItems items ++ rest) fuel = some (items, rest) := by
  induction items generalizing fuel with
  | nil =>
    obtain ⟨fuel, rfl⟩ := Nat.exists_eq_succ_of_ne_zero (Nat.ne_of_gt hfuel)
    rfl
  | cons item items ih =>
    obtain ⟨fuel, rfl⟩ := Nat.exists_eq_succ_of_ne_zero (Nat.ne_of_gt (Nat.zero_lt_of_lt hfuel))
    obtain ⟨hitem, hitems⟩ := List.forall_mem_cons.1 hplain
    obtain ⟨hread, hreads⟩ := List.forall_mem_cons.1 hback
    obtain ⟨first, tail, hwrite, hfirst⟩ := write_eq_cons hitem
    have htext : writeItems (item :: items) ++ rest =
        item.write ++ ',' :: (writeItems items ++ rest) := by
      simp [writeItems]
    have hvalue := hread (',' :: (writeItems items ++ rest)) (by simp)
    rw [htext, arrayItems_succ ?_ ?_ hvalue, ih hitems hreads (Nat.lt_of_succ_lt_succ hfuel)]
    · rfl
    · rw [hwrite]
      exact skipGap_of_mem (by revert hfirst; simp; tauto) _
    · intro after heq
      rw [hwrite] at heq
      obtain ⟨rfl, -⟩ := List.cons.inj heq
      simp at hfirst

theorem length_lt_length_writeItems (items : List Value) :
    items.length < (writeItems items).length := by
  induction items with
  | nil => decide
  | cons item items ih =>
    rw [writeItems, List.length_append, List.length_cons, List.length_cons]
    omega

/-- What is written is read back whatever follows it but a quote. -/
theorem value?_write {depth : Nat} {value : Value} (h : Plain depth value) :
    ReadsBack depth value := by
  induction h with
  | text text => exact readsBack_text _ text
  | boolean truth => exact readsBack_boolean _ truth
  | @array depth items hplain ih =>
    intro rest _
    have hfuel : items.length < (writeItems items ++ rest).length + 1 := by
      have hlength := length_lt_length_writeItems items
      rw [List.length_append]
      omega
    rw [Value.write, List.cons_append, value?, arrayItems_writeItems hplain ih hfuel]
    rfl

/-! ### Documents -/

/-- A document of one line, which gives `types` a value. -/
def documentOf (value : Value) : String :=
  String.ofList ("types=".toList ++ value.write)

theorem key?_types (rest : List Char) :
    key? ("types=".toList ++ rest) = some (([], "types"), '=' :: rest) := by
  rfl

theorem skipBlanks_write {depth : Nat} {value : Value} (h : Plain depth value) :
    skipBlanks value.write = value.write := by
  obtain ⟨first, tail, hwrite, hfirst⟩ := write_eq_cons h
  have hblank : isBlank first = false := by
    simp only [List.mem_cons, List.not_mem_nil, or_false] at hfirst
    rcases hfirst with rfl | rfl | rfl | rfl <;> rfl
  rw [hwrite, skipBlanks, List.dropWhile_cons_of_neg (by simp [hblank])]

theorem line_types {value : Value} (h : Plain (depthLimit - 1) value) :
    line ("types=".toList ++ value.write) = some (.entry ⟨[], "types", value⟩, []) := by
  have hvalue := value?_write h [] (by simp)
  rw [List.append_nil] at hvalue
  have hentry : keyValue? (value? (depthLimit - 1)) ("types=".toList ++ value.write) =
      some (⟨[], "types", value⟩, []) := by
    rw [keyValue?, key?_types]
    change (value? (depthLimit - 1) (skipBlanks value.write)).bind _ = _
    rw [skipBlanks_write h, hvalue]
    rfl
  change (keyValue? (value? (depthLimit - 1)) ("types=".toList ++ value.write)).bind _ = _
  rw [hentry]
  rfl

theorem insertAll_types (value : Value) :
    Draft.insertAll [] [⟨[], "types", value⟩] = some [("types", .leaf value)] := by
  rfl

theorem finish_types (value : Value) : finish [("types", .leaf value)] = [("types", value)] := by
  rw [finish, Node.value, finish]

theorem parse_document {value : Value} (h : Plain (depthLimit - 1) value) :
    parse (documentOf value) = .ok [("types", value)] := by
  have hlines (fuel : Nat) : lines ("types=".toList ++ value.write) (fuel + 1) =
      some [.entry ⟨[], "types", value⟩] := by
    change (line ("types=".toList ++ value.write)).bind _ = _
    rw [line_types h]
    cases fuel <;> rfl
  have hmark : skipMark ("types=".toList ++ value.write) = "types=".toList ++ value.write := rfl
  have hparse : parse? (documentOf value) = some [("types", value)] := by
    have hlist : (documentOf value).toList = "types=".toList ++ value.write :=
      String.toList_ofList
    have hparts : parts [.entry ⟨[], "types", value⟩] = ([⟨[], "types", value⟩], []) := rfl
    simp only [parse?, hlist, hmark, hlines, Option.bind_eq_bind, Option.bind_some, hparts,
      insertAll_types]
    exact congrArg some (finish_types value)
  rw [parse, hparse]

end Toml

open Toml (Value Plain ListForm documentOf parse_document)

/-! ### Types as values -/

def Descriptor.toToml (descriptor : Descriptor) : Value :=
  .text descriptor.text

def Constructor.toToml (constructor : Constructor) : Value :=
  .array [.array (constructor.params.map Descriptor.toToml), .text constructor.visibility.name]

def Method.toToml (method : Method) : Value :=
  .array [.text method.name, .array (method.params.map Descriptor.toToml), .boolean method.isStatic,
    .text method.visibility.name]

def TypeInfo.toToml (info : TypeInfo) : Value :=
  .array [info.descriptor.toToml, .boolean info.isEnum,
    .array (info.constructors.map Constructor.toToml), .array (info.methods.map Method.toToml)]

theorem listForm_map {α : Type} {form : Value → α → Prop} {write : α → Value}
    (h : ∀ item, form (write item) item) (items : List α) :
    ListForm form (.array (items.map write)) items :=
  ⟨_, rfl, List.forall₂_map_left_iff.2 (List.forall₂_same.2 fun item _ ↦ h item)⟩

theorem plain_map {α : Type} {depth : Nat} {write : α → Value}
    (h : ∀ item, Plain depth (write item)) (items : List α) :
    Plain (depth + 1) (.array (items.map write)) :=
  .array (List.forall_mem_map.2 fun item _ ↦ h item)

theorem descriptorForm_toToml (descriptor : Descriptor) :
    DescriptorForm descriptor.toToml descriptor :=
  rfl

theorem constructorForm_toToml (constructor : Constructor) :
    ConstructorForm constructor.toToml constructor :=
  ⟨_, .byPosition _ _ rfl, listForm_map descriptorForm_toToml _, .inl rfl⟩

theorem methodForm_toToml (method : Method) : MethodForm method.toToml method :=
  ⟨_, .byPosition _ _ rfl, rfl, listForm_map descriptorForm_toToml _, rfl, .inl rfl⟩

theorem typeInfoForm_toToml (info : TypeInfo) : TypeInfoForm info.toToml info :=
  ⟨_, .byPosition _ _ rfl, descriptorForm_toToml _, rfl, listForm_map constructorForm_toToml _,
    listForm_map methodForm_toToml _⟩

theorem Descriptor.plain_toToml {depth : Nat} (descriptor : Descriptor) :
    Plain depth descriptor.toToml :=
  .text descriptor.text

theorem Constructor.plain_toToml {depth : Nat} (constructor : Constructor) :
    Plain (depth + 2) constructor.toToml := by
  have hparams : Plain (depth + 1) (.array (constructor.params.map Descriptor.toToml)) :=
    plain_map Descriptor.plain_toToml _
  refine .array fun item hitem ↦ ?_
  simp only [List.mem_cons, List.not_mem_nil, or_false] at hitem
  obtain rfl | rfl := hitem
  · exact hparams
  · exact .text _

theorem Method.plain_toToml {depth : Nat} (method : Method) : Plain (depth + 2) method.toToml := by
  have hparams : Plain (depth + 1) (.array (method.params.map Descriptor.toToml)) :=
    plain_map Descriptor.plain_toToml _
  refine .array fun item hitem ↦ ?_
  simp only [List.mem_cons, List.not_mem_nil, or_false] at hitem
  obtain rfl | rfl | rfl | rfl := hitem
  · exact .text _
  · exact hparams
  · exact .boolean _
  · exact .text _

theorem TypeInfo.plain_toToml {depth : Nat} (info : TypeInfo) :
    Plain (depth + 4) info.toToml := by
  have hconstructors : Plain (depth + 3) (.array (info.constructors.map Constructor.toToml)) :=
    plain_map Constructor.plain_toToml _
  have hmethods : Plain (depth + 3) (.array (info.methods.map Method.toToml)) :=
    plain_map Method.plain_toToml _
  refine .array fun item hitem ↦ ?_
  simp only [List.mem_cons, List.not_mem_nil, or_false] at hitem
  obtain rfl | rfl | rfl | rfl := hitem
  · exact info.descriptor.plain_toToml
  · exact .boolean _
  · exact hconstructors
  · exact hmethods

namespace TypeTable

/-- The text of a table file that lists these types. -/
def fileText (infos : List TypeInfo) : String :=
  documentOf (.array (infos.map TypeInfo.toToml))

theorem listedIn_fileText (infos : List TypeInfo) :
    TableRuns.listedIn (fileText infos) = .ok infos := by
  -- The types are in one array, and a parameter of a member of a type is five arrays deep.
  have hplain : Plain (74 + 5) (.array (infos.map TypeInfo.toToml)) :=
    plain_map TypeInfo.plain_toToml _
  have hform : FileForm (.table [("types", .array (infos.map TypeInfo.toToml))]) infos :=
    ⟨_, .byName _ (by simp) (by simp), listForm_map typeInfoForm_toToml infos⟩
  exact listedIn_eq_ok_iff.2 ⟨_, parse_document hplain, hform⟩

end TypeTable

end JvmSchema
