import JvmSchema.Json.Decoder
import Mathlib.Logic.Basic

/-!
# The tokens of a written document

What the writer of JSON documents puts down is cut into the tokens of the value again, in both
layouts: on one line (`tokens_compact`) and over several (`tokens_pretty`). A text `Spells` tokens
when it is cut into them whatever comes after it; such texts can be put one after the other, and a
blank spells nothing. The one lemma about characters is `scanText_escaped`: every character of a
string is read back from what stands for it, be it an escape or the character itself.

Values whose scalars can be read back are `Readable`. Texts and truth values are, and so is
everything made from them.
-/

set_option autoImplicit false
set_option relaxedAutoImplicit false

namespace JvmSchema.Json

open Text (prepend)

/-! ### Strings -/

theorem hexValue?_controlDigits {char : Char} (h : char.toNat < 0x20) :
    (controlDigits char).length = 4 ∧ Text.hexValue? (controlDigits char) = some char.toNat := by
  have hall : ∀ code < 0x20, (controlDigits (Char.ofNat code)).length = 4 ∧
      Text.hexValue? (controlDigits (Char.ofNat code)) = some code := by
    decide +kernel
  have hchar := hall char.toNat h
  rwa [Char.ofNat_toNat] at hchar

theorem scanText_control {char : Char} (h : char.toNat < 0x20) (rest : List Char) :
    scanText ('\\' :: 'u' :: controlDigits char ++ rest) = prepend char (scanText rest) := by
  obtain ⟨hlength, hvalue⟩ := hexValue?_controlDigits h
  generalize controlDigits char = digits at hlength hvalue
  match digits, hlength with
  | [a, b, c, d], _ =>
    rw [List.cons_append, List.cons_append, List.cons_append, List.cons_append, List.cons_append,
      List.cons_append, List.nil_append, scanText, hvalue]
    -- A control lies below the surrogates.
    have hlow : ¬ (0xdc00 ≤ char.toNat ∧ char.toNat < 0xe000) := by omega
    have hhigh : ¬ (0xd800 ≤ char.toNat ∧ char.toNat < 0xdc00) := by omega
    simp only [if_neg hlow, if_neg hhigh, Char.ofNat_toNat]

theorem scanText_plain {char : Char} (hquote : char ≠ '"') (hbackslash : char ≠ '\\')
    (hcontrol : ¬ char.toNat < 0x20) (rest : List Char) :
    scanText (char :: rest) = prepend char (scanText rest) := by
  rw [scanText]
  · rw [if_neg (not_or.2 ⟨hbackslash, hcontrol⟩)]
  · exact fun h ↦ hquote h
  · exact fun _ _ _ _ _ h _ ↦ hbackslash h
  · exact fun _ _ h _ ↦ hbackslash h

theorem scanText_escaped (char : Char) (rest : List Char) :
    scanText (escaped char ++ rest) = prepend char (scanText rest) := by
  rw [escaped.eq_def]
  split
  · rfl
  · rfl
  · rfl
  · rfl
  · rfl
  · rfl
  · rfl
  next hquote hbackslash _ _ _ _ _ =>
    split
    next hcontrol => exact scanText_control hcontrol rest
    next hcontrol => exact scanText_plain hquote hbackslash hcontrol rest

theorem scanText_flatMap_escaped (chars rest : List Char) :
    scanText (chars.flatMap escaped ++ '"' :: rest) = some (chars, rest) := by
  induction chars with
  | nil => rfl
  | cons char chars ih =>
    rw [List.flatMap_cons, List.append_assoc, scanText_escaped, ih]
    rfl

/-! ### Texts that spell tokens -/

/-- The text is cut into the tokens, given a step for each of its characters at least. -/
def Scans (text : List Char) (found : List Token) : Prop :=
  ∀ fuel, text.length ≤ fuel → scanAll text fuel = found

/-- The text is cut into the tokens whatever comes after it. -/
def Spells (text : List Char) (found : List Token) : Prop :=
  ∀ rest more, Scans rest more → Scans (text ++ rest) (found ++ more)

theorem scans_nil : Scans [] [] := by
  intro fuel _
  cases fuel <;> rfl

theorem tokens_ofList_of_spells {text : List Char} {found : List Token} (h : Spells text found) :
    tokens (String.ofList text) = found := by
  have hscans := h [] [] scans_nil
  rw [List.append_nil, List.append_nil] at hscans
  rw [tokens, String.toList_ofList]
  exact hscans text.length (Nat.le_refl _)

theorem Spells.append {first second : List Char} {found found' : List Token}
    (h : Spells first found) (h' : Spells second found') :
    Spells (first ++ second) (found ++ found') := by
  intro rest more hrest
  rw [List.append_assoc, List.append_assoc]
  exact h _ _ (h' _ _ hrest)

theorem spells_nil : Spells [] [] := fun _ _ h ↦ h

theorem spells_blank {char : Char} (h : isBlank char) : Spells [char] [] := by
  intro rest more hrest fuel hfuel
  cases fuel with
  | zero => simp at hfuel
  | succ fuel =>
    have hskip : scanAll (char :: rest) (fuel + 1) = scanAll rest (fuel + 1) := by
      rw [scanAll, scanAll, List.dropWhile_cons_of_pos h]
    have hlength : rest.length ≤ fuel + 1 := by
      simp only [List.singleton_append, List.length_cons] at hfuel
      omega
    exact hskip.trans (hrest (fuel + 1) hlength)

theorem spells_blanks {chars : List Char} (h : ∀ char ∈ chars, isBlank char) :
    Spells chars [] := by
  induction chars with
  | nil => exact spells_nil
  | cons char chars ih =>
    obtain ⟨hchar, hchars⟩ := List.forall_mem_cons.1 h
    exact (spells_blank hchar).append (ih hchars)

/-- A text that is taken for a token, whatever follows, spells it. -/
theorem spells_of_scan {char : Char} {chars : List Char} {token : Token}
    (hblank : isBlank char = false)
    (h : ∀ rest, Token.scan (char :: chars ++ rest) = some (token, rest)) :
    Spells (char :: chars) [token] := by
  intro rest more hrest fuel hfuel
  cases fuel with
  | zero => simp at hfuel
  | succ fuel =>
    have hlength : rest.length ≤ fuel := by
      simp only [List.length_append, List.length_cons] at hfuel
      omega
    have hstart : (char :: chars ++ rest).dropWhile isBlank = char :: (chars ++ rest) :=
      List.dropWhile_cons_of_neg (by simp [hblank])
    have htoken : Token.scan (char :: (chars ++ rest)) = some (token, rest) := h rest
    rw [scanAll, hstart]
    simp only [htoken, hrest fuel hlength, List.singleton_append]

theorem spells_beginObject : Spells ['\x7b'] [.beginObject] := spells_of_scan rfl fun _ ↦ rfl

theorem spells_endObject : Spells ['\x7d'] [.endObject] := spells_of_scan rfl fun _ ↦ rfl

theorem spells_beginArray : Spells ['['] [.beginArray] := spells_of_scan rfl fun _ ↦ rfl

theorem spells_endArray : Spells [']'] [.endArray] := spells_of_scan rfl fun _ ↦ rfl

theorem spells_colon : Spells [':'] [.colon] := spells_of_scan rfl fun _ ↦ rfl

theorem spells_comma : Spells [','] [.comma] := spells_of_scan rfl fun _ ↦ rfl

theorem spells_quoted (text : String) : Spells (quoted text) [.scalar (.text text)] := by
  have hquoted : quoted text = '"' :: (text.toList.flatMap escaped ++ ['"']) := rfl
  rw [hquoted]
  refine spells_of_scan rfl fun rest ↦ ?_
  rw [List.cons_append, List.append_assoc, List.singleton_append, Token.scan,
    scanText_flatMap_escaped]
  simp only [Option.map_some, String.ofList_toList]

theorem spells_boolean (value : Bool) :
    Spells (Scalar.boolean value).chars [.scalar (.boolean value)] := by
  cases value with
  | false => exact spells_of_scan rfl fun _ ↦ rfl
  | true => exact spells_of_scan rfl fun _ ↦ rfl

/-! ### Tokens of values -/

mutual

/-- The tokens of a value. -/
def Value.tokens : Value → List Token
  | .scalar value => [.scalar value]
  | .array [] => [.beginArray, .endArray]
  | .array (item :: rest) => .beginArray :: (item.tokens ++ furtherItemTokens rest)
  | .object [] => [.beginObject, .endObject]
  | .object ((name, value) :: rest) =>
    .beginObject :: .scalar (.text name) :: .colon :: (value.tokens ++ furtherMemberTokens rest)

/-- The tokens of the further items of an array, up to its end. -/
def furtherItemTokens : List Value → List Token
  | [] => [.endArray]
  | item :: rest => .comma :: (item.tokens ++ furtherItemTokens rest)

/-- The tokens of the further members of an object, up to its end. -/
def furtherMemberTokens : List (String × Value) → List Token
  | [] => [.endObject]
  | (name, value) :: rest =>
    .comma :: .scalar (.text name) :: .colon :: (value.tokens ++ furtherMemberTokens rest)

end

/-- Every scalar in the value is read back from its text. -/
inductive Value.Readable : Value → Prop
  | scalar {value : Scalar} (h : Spells value.chars [.scalar value]) : Readable (.scalar value)
  | array {items : List Value} (h : ∀ item ∈ items, Readable item) : Readable (.array items)
  | object {members : List (String × Value)} (h : ∀ member ∈ members, Readable member.2) :
    Readable (.object members)

theorem readable_text (text : String) : (Value.text text).Readable := .scalar (spells_quoted text)

theorem readable_boolean (value : Bool) : (Value.boolean value).Readable :=
  .scalar (spells_boolean value)

theorem readable_array {α : Type} {toJson : α → Value} (h : ∀ value, (toJson value).Readable)
    (values : List α) : (Value.array (values.map toJson)).Readable := by
  refine .array fun item hitem ↦ ?_
  obtain ⟨value, -, rfl⟩ := List.mem_map.1 hitem
  exact h value

/-! ### One line -/

theorem spells_compactItems {item : Value} {rest : List Value}
    (h : ∀ other ∈ item :: rest, Spells other.compactChars other.tokens) :
    Spells (compactItems (item :: rest)) (item.tokens ++ furtherItemTokens rest) := by
  induction rest generalizing item with
  | nil =>
    rw [compactItems, furtherItemTokens]
    exact (h item List.mem_cons_self).append spells_endArray
  | cons next rest ih =>
    obtain ⟨hitem, hrest⟩ := List.forall_mem_cons.1 h
    rw [compactItems, furtherItemTokens]
    · exact hitem.append (spells_comma.append (ih hrest))
    · simp

theorem spells_compactMembers {name : String} {value : Value} {rest : List (String × Value)}
    (h : ∀ other ∈ (name, value) :: rest, Spells other.2.compactChars other.2.tokens) :
    Spells (compactMembers ((name, value) :: rest))
      (.scalar (.text name) :: .colon :: (value.tokens ++ furtherMemberTokens rest)) := by
  induction rest generalizing name value with
  | nil =>
    rw [compactMembers, furtherMemberTokens]
    exact ((spells_quoted name).append (spells_colon.append (h _ List.mem_cons_self))).append
      spells_endObject
  | cons next rest ih =>
    obtain ⟨hvalue, hrest⟩ := List.forall_mem_cons.1 h
    rw [compactMembers, furtherMemberTokens]
    · exact ((spells_quoted name).append (spells_colon.append hvalue)).append
        (spells_comma.append (ih hrest))
    · simp

theorem spells_compactChars {value : Value} (h : value.Readable) :
    Spells value.compactChars value.tokens := by
  induction h with
  | scalar h =>
    rw [Value.compactChars, Value.tokens]
    exact h
  | @array items _ ih =>
    cases items with
    | nil =>
      rw [Value.compactChars, Value.tokens, compactItems]
      exact spells_beginArray.append spells_endArray
    | cons item rest =>
      rw [Value.compactChars, Value.tokens]
      exact spells_beginArray.append (spells_compactItems ih)
  | @object members _ ih =>
    match members with
    | [] =>
      rw [Value.compactChars, Value.tokens, compactMembers]
      exact spells_beginObject.append spells_endObject
    | (name, value) :: rest =>
      rw [Value.compactChars, Value.tokens]
      exact spells_beginObject.append (spells_compactMembers ih)

/-- A document on one line is cut into the tokens of its value. -/
theorem tokens_compact {value : Value} (h : value.Readable) :
    tokens value.compact = value.tokens :=
  tokens_ofList_of_spells (spells_compactChars h)

/-! ### Several lines -/

theorem spells_newLine (level : Nat) : Spells (newLine level) [] := by
  refine spells_blanks fun char hchar ↦ ?_
  rcases List.mem_cons.1 hchar with rfl | hblank
  · rfl
  · rw [List.eq_of_mem_replicate hblank]
    rfl

theorem spells_prettyItems {level : Nat} {items : List Value}
    (h : ∀ item ∈ items, Spells (item.prettyChars (level + 1)) item.tokens) :
    Spells (prettyItems level items) (furtherItemTokens items) := by
  induction items with
  | nil =>
    rw [prettyItems, furtherItemTokens]
    exact (spells_newLine level).append spells_endArray
  | cons item rest ih =>
    obtain ⟨hitem, hrest⟩ := List.forall_mem_cons.1 h
    rw [prettyItems, furtherItemTokens]
    exact ((spells_comma.append (spells_newLine (level + 1))).append hitem).append (ih hrest)

theorem spells_prettyMember {level : Nat} {name : String} {value : Value}
    (h : Spells (value.prettyChars level) value.tokens) :
    Spells (quoted name ++ ':' :: ' ' :: value.prettyChars level)
      (.scalar (.text name) :: .colon :: value.tokens) :=
  (spells_quoted name).append (spells_colon.append ((spells_blank rfl).append h))

theorem spells_prettyMembers {level : Nat} {members : List (String × Value)}
    (h : ∀ member ∈ members, Spells (member.2.prettyChars (level + 1)) member.2.tokens) :
    Spells (prettyMembers level members) (furtherMemberTokens members) := by
  induction members with
  | nil =>
    rw [prettyMembers, furtherMemberTokens]
    exact (spells_newLine level).append spells_endObject
  | cons member rest ih =>
    obtain ⟨hvalue, hrest⟩ := List.forall_mem_cons.1 h
    rw [prettyMembers, furtherMemberTokens, List.append_assoc (',' :: _)]
    exact ((spells_comma.append (spells_newLine (level + 1))).append
      (spells_prettyMember hvalue)).append (ih hrest)

theorem spells_prettyChars {value : Value} (h : value.Readable) (level : Nat) :
    Spells (value.prettyChars level) value.tokens := by
  induction h generalizing level with
  | scalar h =>
    rw [Value.prettyChars, Value.tokens]
    exact h
  | @array items _ ih =>
    cases items with
    | nil =>
      rw [Value.prettyChars, Value.tokens]
      exact spells_beginArray.append spells_endArray
    | cons item rest =>
      obtain ⟨hitem, hrest⟩ := List.forall_mem_cons.1 ih
      rw [Value.prettyChars, Value.tokens]
      exact ((spells_beginArray.append (spells_newLine (level + 1))).append
        (hitem (level + 1))).append (spells_prettyItems fun other hother ↦ hrest other hother _)
  | @object members _ ih =>
    match members with
    | [] =>
      rw [Value.prettyChars, Value.tokens]
      exact spells_beginObject.append spells_endObject
    | (name, value) :: rest =>
      obtain ⟨hvalue, hrest⟩ := List.forall_mem_cons.1 ih
      rw [Value.prettyChars, Value.tokens, List.append_assoc ('\x7b' :: _)]
      exact ((spells_beginObject.append (spells_newLine (level + 1))).append
        (spells_prettyMember (hvalue (level + 1)))).append
          (spells_prettyMembers fun other hother ↦ hrest other hother _)

/-- A document over several lines is cut into the tokens of its value. -/
theorem tokens_pretty {value : Value} (h : value.Readable) :
    tokens value.pretty = value.tokens :=
  tokens_ofList_of_spells (spells_prettyChars h 0)

end JvmSchema.Json
