import JvmSchema.Proofs.RecordComponents
import JvmSchema.Toml.Decoder
import Mathlib.Data.List.Nodup

/-!
# What a record decoder reads

What decoders of TOML values accept and what they read, said without the order in which they go
about it. A value gives the fields of a record by name or by position (`Gives`). The decoder accepts
it exactly when every field that is given can be read and no field that must be given is missing,
and then every field of the result is what was read for it, or its default (`record_eq_ok_iff`).
Other values have forms of their own, and `Decoder.Reads` ties a decoder to a form.
-/

set_option autoImplicit false
set_option relaxedAutoImplicit false

namespace JvmSchema.Toml

variable {field α : Type} {record : Record field α} {decode : field → α → Decoder α}

/-! ### Decoding in sequence -/

/-- Every given field of the result has been read from what was given, every other field is that
of the start. -/
def Follows (parts : record.Components decode) (given : field → Option Value)
    (start result : α) : Prop :=
  ∀ index,
    match given index with
    | some value => parts.read index value = .ok (parts.get index result)
    | none => parts.get index result = parts.get index start

theorem follows_none_iff {parts : record.Components decode} {start result : α} :
    Follows parts (fun _ ↦ none) start result ↔ start = result := by
  constructor
  · intro h
    exact parts.ext fun index ↦ (h index).symm
  · intro h index
    rw [h]

theorem decode_eq_ok_iff (parts : record.Components decode) {index : field} {start next : α}
    {value : Value} : decode index start value = .ok next ↔
      ∃ part, parts.read index value = .ok part ∧ parts.set index start part = next := by
  rw [parts.decode_eq]
  change Except.map (parts.set index start) (parts.read index value) = .ok next ↔ _
  cases parts.read index value <;> simp [Except.map]

/-- Decoding one field that is not given again brings it under what is given. -/
theorem exists_decode_follows_iff [DecidableEq field] (parts : record.Components decode)
    {given : field → Option Value} {index : field} {value : Value} {start result : α}
    (h : given index = none) :
    (∃ next, decode index start value = .ok next ∧ Follows parts given next result) ↔
      Follows parts (Function.update given index (some value)) start result := by
  constructor
  · rintro ⟨next, hdecode, hfollows⟩ other
    obtain ⟨part, hread, rfl⟩ := (decode_eq_ok_iff parts).1 hdecode
    have hother := hfollows other
    by_cases heq : other = index
    · subst heq
      simp only [h, parts.get_set] at hother
      simpa only [Function.update_self, hother] using hread
    · simpa only [Function.update_of_ne heq, parts.get_set_of_ne heq] using hother
  · intro hfollows
    have hindex := hfollows index
    simp only [Function.update_self] at hindex
    refine ⟨_, (decode_eq_ok_iff parts).2 ⟨_, hindex, rfl⟩, fun other ↦ ?_⟩
    by_cases heq : other = index
    · subst heq
      simp only [h, parts.get_set]
    · have hother := hfollows other
      simpa only [Function.update_of_ne heq, parts.get_set_of_ne heq] using hother

/-! ### Fields by name -/

/-- What the entries of a table give for a field. -/
def givenByName (record : Record field α) (entries : Table) (index : field) : Option Value :=
  entries.lookup (record.label index)

theorem givenByName_eq_none_iff {entries : Table} {index : field} :
    givenByName record entries index = none ↔ record.label index ∉ entries.map Prod.fst := by
  simp only [givenByName, List.lookup_eq_none_iff, List.mem_map, not_exists, not_and, bne_iff_ne]
  exact forall₂_congr fun entry _ ↦ ne_comm

theorem givenByName_cons [DecidableEq field] (parts : record.Components decode)
    {name : String} {index : field} (h : record.label index = name) (value : Value)
    (rest : Table) : givenByName record ((name, value) :: rest) =
      Function.update (givenByName record rest) index (some value) := by
  funext other
  subst h
  by_cases heq : other = index
  · subst heq
    simp [givenByName]
  · have hne : record.label other ≠ record.label index := fun h ↦ heq (parts.label_injective h)
    simp [givenByName, Function.update_of_ne heq, List.lookup_cons, beq_false_of_ne hne]

/-- Names that stand for fields, each for another one that has not been seen, and for all that must
be given and have not been seen. -/
structure Names (record : Record field α) (seen : List field) (names : List String) : Prop where
  known : ∀ name ∈ names, name ∈ record.labels
  nodup : names.Nodup
  notSeen : ∀ index ∈ seen, record.label index ∉ names
  complete : ∀ index, record.required index → index ∈ seen ∨ record.label index ∈ names

theorem names_nil_iff {seen : List field} :
    Names record seen [] ↔ ∀ index, record.required index → index ∈ seen := by
  constructor
  · intro h index hindex
    simpa using h.complete index hindex
  · intro h
    exact ⟨by simp, .nil, by simp, fun index hindex ↦ .inl (h index hindex)⟩

theorem names_iff_of_none_seen {names : List String} :
    Names record [] names ↔ (∀ name ∈ names, name ∈ record.labels) ∧ names.Nodup ∧
      ∀ index, record.required index → record.label index ∈ names := by
  constructor
  · intro h
    exact ⟨h.known, h.nodup, fun index hindex ↦ by simpa using h.complete index hindex⟩
  · intro ⟨hknown, hnodup, hcomplete⟩
    exact ⟨hknown, hnodup, by simp, fun index hindex ↦ .inr (hcomplete index hindex)⟩

theorem names_cons_iff (parts : record.Components decode) {seen : List field} {name : String}
    {index : field} (hlabel : record.label index = name) {rest : List String} :
    Names record seen (name :: rest) ↔ index ∉ seen ∧ Names record (index :: seen) rest := by
  subst hlabel
  constructor
  · rintro ⟨hknown, hnodup, hnotSeen, hcomplete⟩
    obtain ⟨hnew, hnodup⟩ := List.nodup_cons.1 hnodup
    refine ⟨fun h ↦ hnotSeen index h List.mem_cons_self,
      fun name h ↦ hknown name (List.mem_cons_of_mem _ h), hnodup, ?_, fun other hother ↦ ?_⟩
    · exact List.forall_mem_cons.2
        ⟨hnew, fun other hother h ↦ hnotSeen other hother (List.mem_cons_of_mem _ h)⟩
    · rcases hcomplete other hother with hseen | hmem
      · exact .inl (List.mem_cons_of_mem _ hseen)
      · rcases List.mem_cons.1 hmem with heq | hmem
        · exact .inl (parts.label_injective heq ▸ List.mem_cons_self)
        · exact .inr hmem
  · rintro ⟨hindex, hknown, hnodup, hnotSeen, hcomplete⟩
    obtain ⟨hnew, hnotSeen⟩ := List.forall_mem_cons.1 hnotSeen
    refine ⟨List.forall_mem_cons.2 ⟨List.mem_map_of_mem (parts.mem_fields index), hknown⟩,
      List.nodup_cons.2 ⟨hnew, hnodup⟩, fun other hother h ↦ ?_, fun other hother ↦ ?_⟩
    · rcases List.mem_cons.1 h with heq | hmem
      · exact hindex (parts.label_injective heq ▸ hother)
      · exact hnotSeen other hother hmem
    · rcases hcomplete other hother with hseen | hmem
      · rcases List.mem_cons.1 hseen with rfl | hseen
        · exact .inr List.mem_cons_self
        · exact .inl hseen
      · exact .inr (List.mem_cons_of_mem _ hmem)

theorem byName_eq_ok_iff [DecidableEq field] (parts : record.Components decode)
    {seen : List field} {start result : α} {entries : Table} :
    Decoder.byName record decode seen start entries = .ok result ↔
      Names record seen (entries.map Prod.fst) ∧
        Follows parts (givenByName record entries) start result := by
  induction entries generalizing seen start with
  | nil =>
    have hgiven : givenByName record [] = fun _ ↦ none := rfl
    rw [Decoder.byName, bind_eq_ok_iff, hgiven, follows_none_iff, List.map_nil, names_nil_iff]
    simp [Record.complete_eq_ok_iff, parts.mem_fields, pure, Except.pure]
  | cons entry rest ih =>
    obtain ⟨name, value⟩ := entry
    rw [Decoder.byName, bind_eq_ok_iff, List.map_cons]
    simp only [Record.enter_eq_ok_iff, bind_eq_ok_iff, ih]
    cases hfield : record.field? name with
    | none =>
      have hunknown : name ∉ record.labels := Record.field?_eq_none_iff.1 hfield
      have hname : ¬ Names record seen (name :: rest.map Prod.fst) :=
        fun h ↦ hunknown (h.known name List.mem_cons_self)
      simp [hname]
    | some index =>
      have hlabel := Record.label_of_field? hfield
      rw [names_cons_iff parts hlabel, givenByName_cons parts hlabel]
      simp only [Option.some.injEq, and_assoc, exists_eq_left']
      refine and_congr_right fun _ ↦ ?_
      rw [exists_congr fun _ ↦ and_left_comm, exists_and_left]
      refine and_congr_right fun hnames ↦ ?_
      -- No later entry gives the field again, as it has been seen.
      have hnone : givenByName record rest index = none :=
        givenByName_eq_none_iff.2 (hnames.notSeen index List.mem_cons_self)
      exact exists_decode_follows_iff parts hnone

/-! ### Fields by position -/

/-- Items in order under the names of the fields. -/
def inOrder (record : Record field α) (fields : List field) (items : List Value) : Table :=
  (fields.map record.label).zip items

theorem label_notMem_inOrder (parts : record.Components decode) {fields : List field}
    {index : field} (h : index ∉ fields) (items : List Value) :
    record.label index ∉ (inOrder record fields items).map Prod.fst := by
  intro hmem
  obtain ⟨entry, hentry, hlabel⟩ := List.mem_map.1 hmem
  obtain ⟨other, hother, hname⟩ := List.mem_map.1 (List.of_mem_zip hentry).1
  exact h (parts.label_injective (hname.trans hlabel) ▸ hother)

theorem byPosition_eq_ok_iff [DecidableEq field] (parts : record.Components decode)
    {start result : α} {fields : List field} {items : List Value} (h : fields.Nodup) :
    Decoder.byPosition record decode start fields items = .ok result ↔
      (∀ index ∈ fields, record.required index →
        record.label index ∈ (inOrder record fields items).map Prod.fst) ∧
        Follows parts (givenByName record (inOrder record fields items)) start result := by
  induction fields generalizing items start with
  | nil =>
    have hgiven : givenByName record (inOrder record [] items) = fun _ ↦ none := rfl
    rw [Decoder.byPosition, hgiven, follows_none_iff]
    simp
  | cons index fields ih =>
    obtain ⟨hindex, hfields⟩ := List.nodup_cons.1 h
    cases items with
    | nil =>
      have hgiven : givenByName record (inOrder record (index :: fields) []) = fun _ ↦ none := rfl
      rw [Decoder.byPosition, bind_eq_ok_iff, hgiven, follows_none_iff]
      simp [Record.completeFrom_eq_ok_iff, pure, Except.pure, inOrder]
    | cons value items =>
      have horder : inOrder record (index :: fields) (value :: items) =
        (record.label index, value) :: inOrder record fields items := rfl
      -- The first field is given, so what must be given is left to the others.
      have hrequired : (∀ other ∈ index :: fields, record.required other →
            record.label other ∈ record.label index ::
              (inOrder record fields items).map Prod.fst) ↔
          ∀ other ∈ fields, record.required other →
            record.label other ∈ (inOrder record fields items).map Prod.fst := by
        rw [List.forall_mem_cons, and_iff_right fun _ ↦ List.mem_cons_self]
        refine forall₂_congr fun other hother ↦ imp_congr_right fun _ ↦ ?_
        rw [List.mem_cons, or_iff_right]
        exact fun hlabel ↦ hindex (parts.label_injective hlabel ▸ hother)
      rw [Decoder.byPosition, bind_eq_ok_iff, horder, List.map_cons, hrequired,
        givenByName_cons parts rfl]
      simp only [ih hfields]
      have hnone : givenByName record (inOrder record fields items) index = none :=
        givenByName_eq_none_iff.2 (label_notMem_inOrder parts hindex items)
      rw [exists_congr fun _ ↦ and_left_comm, exists_and_left]
      exact and_congr_right fun _ ↦ exists_decode_follows_iff parts hnone

/-! ### Records in both notations -/

/-- The items of an array, however it is written. -/
def Value.items? : Value → Option (List Value)
  | .array items => some items
  | .sections tables => some (tables.map .table)
  | _ => none

/-- What a value gives for names in their order: a table gives it under the name and has no other
keys, an array gives it in the place of the name and may go on after the last one. -/
inductive Gives (names : List String) : Value → (String → Option Value) → Prop
  | byName (entries : Table) (known : ∀ name ∈ entries.map Prod.fst, name ∈ names)
      (nodup : (entries.map Prod.fst).Nodup) :
      Gives names (.table entries) fun name ↦ entries.lookup name
  | byPosition (value : Value) (items : List Value) (h : value.items? = some items) :
      Gives names value fun name ↦ (names.zip items).lookup name

theorem gives_table_iff {names : List String} {entries : Table}
    {given : String → Option Value} : Gives names (.table entries) given ↔
      (∀ name ∈ entries.map Prod.fst, name ∈ names) ∧ (entries.map Prod.fst).Nodup ∧
        given = fun name ↦ entries.lookup name := by
  constructor
  · rintro (⟨_, known, nodup⟩ | ⟨_, items, h⟩)
    · exact ⟨known, nodup, rfl⟩
    · simp [Value.items?] at h
  · rintro ⟨known, nodup, rfl⟩
    exact .byName entries known nodup

theorem gives_iff_of_items? {names : List String} {value : Value} {items : List Value}
    (h : value.items? = some items) {given : String → Option Value} :
    Gives names value given ↔ given = fun name ↦ (names.zip items).lookup name := by
  constructor
  · rintro (⟨entries, -, -⟩ | ⟨_, others, hothers⟩)
    · simp [Value.items?] at h
    · rw [h] at hothers
      rw [Option.some.inj hothers]
  · rintro rfl
    exact .byPosition value items h

theorem not_gives {names : List String} {value : Value} (htable : ∀ entries, value ≠ .table entries)
    (hitems : value.items? = none) (given : String → Option Value) : ¬ Gives names value given := by
  rintro (⟨entries, -, -⟩ | ⟨_, items, h⟩)
  · exact htable entries rfl
  · simp [hitems] at h

/-- What is given is read; what is not given need not be, and has its default. -/
def FieldForm {β : Type} (read : Decoder β) (required : Bool) (default : β) :
    Option Value → β → Prop
  | some value, part => read value = .ok part
  | none, part => required = false ∧ part = default

theorem forall_fieldForm_iff (parts : record.Components decode) {entries : Table} {result : α} :
    (∀ index, FieldForm (parts.read index) (record.required index)
        (parts.get index record.blank) (entries.lookup (record.label index))
        (parts.get index result)) ↔
      (∀ index, record.required index → record.label index ∈ entries.map Prod.fst) ∧
        Follows parts (givenByName record entries) record.blank result := by
  rw [Follows, ← forall_and]
  refine forall_congr' fun index ↦ ?_
  rw [← not_not (a := record.label index ∈ _), ← givenByName_eq_none_iff]
  change FieldForm _ _ _ (givenByName record entries index) _ ↔ _
  cases givenByName record entries index <;> simp [FieldForm]

/-- Every field has been read from what the value gives for its name. -/
def RecordForm (parts : record.Components decode) (value : Value) (result : α) : Prop :=
  ∃ given, Gives record.labels value given ∧
    ∀ index, FieldForm (parts.read index) (record.required index)
      (parts.get index record.blank) (given (record.label index)) (parts.get index result)

theorem byPosition_eq_ok_iff_recordForm [DecidableEq field] (parts : record.Components decode)
    {value : Value} {items : List Value} (h : value.items? = some items) {result : α} :
    Decoder.byPosition record decode record.blank record.fields items = .ok result ↔
      RecordForm parts value result := by
  simp only [RecordForm, gives_iff_of_items? h, exists_eq_left, forall_fieldForm_iff parts]
  rw [byPosition_eq_ok_iff parts parts.nodup_fields]
  simp [parts.mem_fields, inOrder, Record.labels]

/-- A record decoder reads every field that is given, by name or by position, gives the others
their defaults, and accepts nothing else. -/
theorem record_eq_ok_iff [DecidableEq field] (parts : record.Components decode)
    (hdatetime : datetimeKey ∉ record.labels) {value : Value} {result : α} :
    Decoder.record record decode value = .ok result ↔ RecordForm parts value result := by
  have hneither (h : ∀ entries, value ≠ .table entries) (h' : value.items? = none) :
      ¬ RecordForm parts value result :=
    fun ⟨given, hgives, _⟩ ↦ not_gives h h' given hgives
  cases value with
  | table entries =>
    rw [Decoder.record, byName_eq_ok_iff parts, names_iff_of_none_seen]
    simp only [RecordForm, gives_table_iff, and_assoc, exists_and_left, exists_eq_left,
      forall_fieldForm_iff parts]
  | array items => exact byPosition_eq_ok_iff_recordForm parts rfl
  | sections tables => exact byPosition_eq_ok_iff_recordForm parts rfl
  | datetime written =>
    -- A date looks like a table whose only key belongs to no record.
    refine iff_of_false (fun h ↦ ?_) (hneither (by simp) rfl)
    rw [Decoder.record, byName_eq_ok_iff parts] at h
    exact hdatetime (h.1.known datetimeKey List.mem_cons_self)
  | text text => exact iff_of_false (by simp [Decoder.record]) (hneither (by simp) rfl)
  | integer number => exact iff_of_false (by simp [Decoder.record]) (hneither (by simp) rfl)
  | float number => exact iff_of_false (by simp [Decoder.record]) (hneither (by simp) rfl)
  | boolean truth => exact iff_of_false (by simp [Decoder.record]) (hneither (by simp) rfl)

/-! ### Forms of values -/

section Forms

variable {β : Type}

/-- The decoder accepts exactly the values of a form, and reads off them what the form says. -/
def Decoder.Reads (decoder : Decoder β) (form : Value → β → Prop) : Prop :=
  ∀ value result, decoder value = .ok result ↔ form value result

/-- A text. -/
def TextForm (value : Value) (text : String) : Prop :=
  value = .text text

/-- A truth value. -/
def BooleanForm (value : Value) (truth : Bool) : Prop :=
  value = .boolean truth

/-- An array whose items all have a form. -/
def ListForm (form : Value → β → Prop) (value : Value) (results : List β) : Prop :=
  ∃ items, value.items? = some items ∧ List.Forall₂ form items results

/-- A name, or a table with the name for its only key and nothing in it. -/
def VariantForm (name : β → String) (value : Value) (choice : β) : Prop :=
  value = .text (name choice) ∨
    ∃ content, value = .table [(name choice, content)] ∧
      (content = .table [] ∨ content.items? = some [])

/-- What must be given. -/
def RequiredForm (form : Value → β → Prop) : Option Value → β → Prop
  | some value, result => form value result
  | none, _ => False

/-- What may be given and otherwise has a default. -/
def OptionalForm (form : Value → β → Prop) (default : β) : Option Value → β → Prop
  | some value, result => form value result
  | none, result => result = default

/-- A record decoder reads the form that says of every field what is read from what is given. -/
theorem reads_record [DecidableEq field] (parts : record.Components decode)
    (hdatetime : datetimeKey ∉ record.labels) {form : (String → Option Value) → α → Prop}
    (h : ∀ given result, (∀ index, FieldForm (parts.read index) (record.required index)
      (parts.get index record.blank) (given (record.label index)) (parts.get index result)) ↔
        form given result) :
    (Decoder.record record decode).Reads fun value result ↦
      ∃ given, Gives record.labels value given ∧ form given result := by
  intro value result
  rw [record_eq_ok_iff parts hdatetime, RecordForm]
  exact exists_congr fun given ↦ and_congr_right fun _ ↦ h given result

theorem reads_text (expected : Expected) : (Decoder.text expected).Reads TextForm := by
  intro value result
  cases value <;> simp [Decoder.text, TextForm]

theorem reads_boolean : Decoder.boolean.Reads BooleanForm := by
  intro value result
  cases value <;> simp [Decoder.boolean, BooleanForm]

theorem mapM_eq_ok_iff {item : Decoder β} {form : Value → β → Prop} (h : item.Reads form)
    {items : List Value} {results : List β} :
    items.mapM item = .ok results ↔ List.Forall₂ form items results := by
  induction items generalizing results with
  | nil => simp [pure, Except.pure, eq_comm]
  | cons value rest ih =>
    rw [List.mapM_cons, bind_eq_ok_iff, List.forall₂_cons_left_iff]
    simp only [bind_eq_ok_iff, h value, ih, pure, Except.pure, Except.ok.injEq]
    constructor
    · rintro ⟨first, hfirst, others, hothers, rfl⟩
      exact ⟨first, others, hfirst, hothers, rfl⟩
    · rintro ⟨first, others, hfirst, hothers, rfl⟩
      exact ⟨first, hfirst, others, hothers, rfl⟩

theorem list_of_items? {item : Decoder β} {value : Value} {items : List Value}
    (h : value.items? = some items) : Decoder.list item value = items.mapM item := by
  cases value with
  | array items =>
    cases h
    rfl
  | sections tables =>
    cases h
    rw [Decoder.list, List.mapM_map]
    rfl
  | _ => cases h

theorem list_ne_ok {item : Decoder β} {value : Value} (h : value.items? = none)
    (results : List β) : Decoder.list item value ≠ .ok results := by
  cases value with
  | array items => cases h
  | sections tables => cases h
  | _ => nofun

theorem list_eq_ok_iff {item : Decoder β} {value : Value} {results : List β} :
    Decoder.list item value = .ok results ↔
      ∃ items, value.items? = some items ∧ items.mapM item = .ok results := by
  cases hvalue : value.items? with
  | none => simpa using list_ne_ok hvalue results
  | some items => simp [list_of_items? hvalue]

theorem reads_list {item : Decoder β} {form : Value → β → Prop} (h : item.Reads form) :
    (Decoder.list item).Reads (ListForm form) := by
  intro value results
  rw [list_eq_ok_iff, ListForm]
  simp only [mapM_eq_ok_iff h]

theorem chosen_eq_ok_iff {all : List β} {name : β → String} (hall : ∀ choice, choice ∈ all)
    (hname : Function.Injective name) {text : String} {choice : β} :
    chosen all name text = .ok choice ↔ name choice = text := by
  rw [chosen]
  constructor
  · intro h
    split at h
    next found hfind =>
      cases h
      simpa using List.find?_some hfind
    next => cases h
  · rintro rfl
    cases hfind : all.find? fun other ↦ name other = name choice with
    | none => exact absurd (List.find?_eq_none.1 hfind choice (hall choice)) (by simp)
    | some found =>
      have hfound : found = choice := hname (by simpa using List.find?_some hfind)
      rw [hfound]

theorem nothing_eq_ok_iff {content : Value} :
    Decoder.nothing content = .ok () ↔ content = .table [] ∨ content.items? = some [] := by
  rw [Decoder.nothing.eq_def]
  split <;> simp_all [Value.items?]

theorem reads_variant {all : List β} {name : β → String} (hall : ∀ choice, choice ∈ all)
    (hname : Function.Injective name) : (Decoder.variant all name).Reads (VariantForm name) := by
  intro value choice
  rw [VariantForm]
  match value with
  | .text text => simp [Decoder.variant, chosen_eq_ok_iff hall hname, eq_comm]
  | .table [] => simp [Decoder.variant]
  | .table [(text, content)] =>
    have hread : Decoder.variant all name (.table [(text, content)]) = .ok choice ↔
        name choice = text ∧ Decoder.nothing content = .ok () := by
      rw [Decoder.variant, bind_eq_ok_iff]
      simp only [chosen_eq_ok_iff hall hname, bind_eq_ok_iff, pure, Except.pure, Except.ok.injEq]
      constructor
      · rintro ⟨found, hfound, ⟨⟩, hnothing, rfl⟩
        exact ⟨hfound, hnothing⟩
      · rintro ⟨hchoice, hnothing⟩
        exact ⟨choice, hchoice, (), hnothing, rfl⟩
    rw [hread, nothing_eq_ok_iff]
    constructor
    · rintro ⟨rfl, hcontent⟩
      exact .inr ⟨content, rfl, hcontent⟩
    · rintro (h | ⟨other, h, hother⟩)
      · cases h
      · cases h
        exact ⟨rfl, hother⟩
  | .table (_ :: _ :: _) => simp [Decoder.variant]
  | .integer _ | .float _ | .boolean _ | .datetime _ | .array _ | .sections _ =>
    simp [Decoder.variant]

theorem fieldForm_required_iff {read : Decoder β} {form : Value → β → Prop} (h : read.Reads form)
    {default : β} {given : Option Value} {result : β} :
    FieldForm read true default given result ↔ RequiredForm form given result := by
  cases given with
  | none => simp [FieldForm, RequiredForm]
  | some value => exact h value result

theorem fieldForm_optional_iff {read : Decoder β} {form : Value → β → Prop} (h : read.Reads form)
    {default : β} {given : Option Value} {result : β} :
    FieldForm read false default given result ↔ OptionalForm form default given result := by
  cases given with
  | none => simp [FieldForm, OptionalForm]
  | some value => exact h value result

end Forms

end JvmSchema.Toml
