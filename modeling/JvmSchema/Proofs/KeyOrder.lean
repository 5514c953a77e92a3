import JvmSchema.Proofs.FormatAgreement
import JvmSchema.Proofs.TypeFileFormat

/-!
# The order of keys

What a TOML value means does not depend on the order of the keys in its tables. Values have the
`SameContent` when they differ in that order only, in how an array is written or in their numbers,
and a decoder is `Blind` to it when it reads the same from them. Records are, because they are read
by looking names up (`blind_record`), and so is everything made of them (`blind_typeInfo`).

Trees that are reordered are shown by values with the same content (`sameContent_of_reordered`).
-/

set_option autoImplicit false
set_option relaxedAutoImplicit false

namespace JvmSchema

open Toml (Decoder FieldForm RecordForm gives_iff_of_items? gives_table_iff not_gives
  record_eq_ok_iff)

/-! ### Values with the same content -/

/-- The values differ in the order of keys, in how arrays are written and in their numbers only. -/
inductive SameContent : Toml.Value → Toml.Value → Prop
  | text (value : String) : SameContent (.text value) (.text value)
  | boolean (value : Bool) : SameContent (.boolean value) (.boolean value)
  | number {given other : Toml.Value} (hgiven : given.IsNumber) (hother : other.IsNumber) :
    SameContent given other
  | array {given other : Toml.Value} {values others : List Toml.Value}
    (hgiven : given.items? = some values) (hother : other.items? = some others)
    (h : List.Forall₂ SameContent values others) : SameContent given other
  | table {entries others : Toml.Table} (hkeys : (entries.map Prod.fst).Perm (others.map Prod.fst))
    (hnodup : (entries.map Prod.fst).Nodup)
    (h : ∀ name, Option.Rel SameContent (entries.lookup name) (others.lookup name)) :
    SameContent (.table entries) (.table others)

theorem Alongside.lookup {α β : Type} {related : α → β → Prop} {members : List (String × α)}
    {others : List (String × β)} (h : Alongside related members others) (name : String) :
    Option.Rel related (members.lookup name) (others.lookup name) := by
  induction h with
  | nil => exact .none
  | @cons key _ _ _ _ hfirst _ ih =>
    rw [List.lookup_cons, List.lookup_cons]
    cases name == key with
    | true => exact .some hfirst
    | false => exact ih

theorem lookup_eq_of_perm {α : Type} {entries others : List (String × α)}
    (h : entries.Perm others) (hkeys : (entries.map Prod.fst).Nodup) (name : String) :
    entries.lookup name = others.lookup name := by
  induction h with
  | nil => rfl
  | cons entry _ ih =>
    rw [List.lookup_cons, List.lookup_cons, ih (List.nodup_cons.1 hkeys).2]
  | swap first second rest =>
    obtain ⟨key, value⟩ := first
    obtain ⟨key', value'⟩ := second
    have hne : key' ≠ key := fun heq ↦ (List.nodup_cons.1 hkeys).1 (heq ▸ List.mem_cons_self)
    by_cases hname : name = key
    · simp [List.lookup_cons, hname, beq_false_of_ne hne.symm]
    · simp [List.lookup_cons, beq_false_of_ne hname]
  | trans hfirst _ ih ih' =>
    rw [ih hkeys, ih' ((hfirst.map Prod.fst).nodup_iff.1 hkeys)]

theorem mem_of_lookup_eq_some {α : Type} {entries : List (String × α)} {name : String} {value : α}
    (h : entries.lookup name = some value) : (name, value) ∈ entries := by
  obtain ⟨before, after, rfl, -⟩ := List.lookup_eq_some_iff.1 h
  exact List.mem_append_right before List.mem_cons_self

theorem forall₂_sameContent {items reordered : List Json.Value} {values others : List Toml.Value}
    (hreordered : List.Forall₂ Reordered items reordered)
    (hvalues : List.Forall₂ Shows items values) (hothers : List.Forall₂ Shows reordered others)
    (h : ∀ item ∈ items, ∀ {other}, Reordered item other → ∀ {given given'}, Shows item given →
      Shows other given' → SameContent given given') : List.Forall₂ SameContent values others := by
  induction hreordered generalizing values others with
  | nil =>
    cases hvalues
    cases hothers
    exact .nil
  | cons hfirst _ ih =>
    obtain ⟨hitem, h⟩ := List.forall_mem_cons.1 h
    cases hvalues with
    | cons hvalue hvalues =>
      cases hothers with
      | cons hother hothers =>
        exact .cons (hitem hfirst hvalue hother) (ih hvalues hothers h)

/-- Reordered trees have the same content as TOML values. -/
theorem sameContent_of_reordered {value other : Json.Value} (h : value.IsTree)
    (hother : Reordered value other) {given given' : Toml.Value} (hgiven : Shows value given)
    (hgiven' : Shows other given') : SameContent given given' := by
  induction h generalizing other given given' with
  | text value =>
    cases hother
    rw [hgiven.text_iff.1 rfl, hgiven'.text_iff.1 rfl]
    exact .text value
  | boolean value =>
    cases hother
    rw [hgiven.boolean_iff.1 rfl, hgiven'.boolean_iff.1 rfl]
    exact .boolean value
  | number h =>
    cases hother
    exact .number (hgiven.isNumber h) (hgiven'.isNumber h)
  | @array items _ ih =>
    cases hother with
    | array hitems =>
      obtain ⟨values, hvalues, hshows⟩ := hgiven.exists_items
      obtain ⟨others, hothers, hshows'⟩ := hgiven'.exists_items
      exact .array hvalues hothers (forall₂_sameContent hitems hshows hshows' ih)
  | @object members hkeys _ ih =>
    cases hother with
    | @object _ between reordered hmembers hperm =>
      cases hgiven with
      | @object _ entries hentries =>
        cases hgiven' with
        | @object _ others hothers =>
          have hbetween := hmembers.map_fst_eq ▸ hkeys
          refine .table ?_ ?_ fun name ↦ ?_
          · rw [← hentries.map_fst_eq, hmembers.map_fst_eq, ← hothers.map_fst_eq]
            exact hperm.map Prod.fst
          · rwa [← hentries.map_fst_eq]
          · -- The name stands for the same member in all four lists, or for none in any.
            have hentry := hentries.lookup name
            have hmember := hmembers.lookup name
            have hother := hothers.lookup name
            rw [← lookup_eq_of_perm hperm hbetween] at hother
            generalize hlookup : members.lookup name = member? at hentry hmember
            generalize between.lookup name = moved? at hmember hother
            generalize entries.lookup name = found? at hentry ⊢
            generalize others.lookup name = other? at hother ⊢
            cases hmember with
            | none =>
              cases hentry
              cases hother
              exact .none
            | some hreordered =>
              cases hentry with
              | some hshows =>
                cases hother with
                | some hshows' =>
                  exact .some (ih _ (mem_of_lookup_eq_some hlookup) hreordered hshows hshows')

/-! ### Decoders that are blind to the order of keys -/

variable {α β : Type}

/-- The decoder reads the same from values with the same content. -/
def Blind (toml : Decoder α) : Prop :=
  ∀ ⦃given other⦄, SameContent given other →
    ∀ result, toml given = .ok result ↔ toml other = .ok result

theorem SameContent.text_iff {given other : Toml.Value} (h : SameContent given other)
    {content : String} : given = .text content ↔ other = .text content := by
  cases h with
  | number hgiven hother => exact iff_of_false (hgiven.ne_text content) (hother.ne_text content)
  | array hgiven hother _ =>
    exact iff_of_false (Toml.Value.ne_text_of_items? hgiven content)
      (Toml.Value.ne_text_of_items? hother content)
  | _ => simp

theorem SameContent.boolean_iff {given other : Toml.Value} (h : SameContent given other)
    {content : Bool} : given = .boolean content ↔ other = .boolean content := by
  cases h with
  | number hgiven hother =>
    exact iff_of_false (hgiven.ne_boolean content) (hother.ne_boolean content)
  | array hgiven hother _ =>
    exact iff_of_false (Toml.Value.ne_boolean_of_items? hgiven content)
      (Toml.Value.ne_boolean_of_items? hother content)
  | _ => simp

theorem Blind.map {toml : Decoder α} (h : Blind toml) (change : α → β) :
    Blind (change <$> toml) := by
  intro given other hsame result
  have hmap (value : Toml.Value) : (change <$> toml) value = .ok result ↔
      ∃ part, toml value = .ok part ∧ change part = result := by
    change Except.map change (toml value) = .ok result ↔ _
    cases toml value <;> simp [Except.map]
  simp only [hmap, h hsame]

theorem blind_text (expected : Expected) : Blind (Decoder.text expected) := by
  intro given other hsame result
  rw [Toml.reads_text, Toml.reads_text, Toml.TextForm, Toml.TextForm, hsame.text_iff]

theorem blind_boolean : Blind Decoder.boolean := by
  intro given other hsame result
  rw [Toml.reads_boolean, Toml.reads_boolean, Toml.BooleanForm, Toml.BooleanForm,
    hsame.boolean_iff]

/-- Either both values are arrays, with items of the same content, or neither is. -/
theorem SameContent.items? {given other : Toml.Value} (h : SameContent given other) :
    Option.Rel (List.Forall₂ SameContent) given.items? other.items? := by
  cases h with
  | number hgiven hother =>
    rw [hgiven.items?_eq_none, hother.items?_eq_none]
    exact .none
  | array hgiven hother h =>
    rw [hgiven, hother]
    exact .some h
  | _ => exact .none

theorem Blind.mapM {toml : Decoder α} (h : Blind toml) {values others : List Toml.Value}
    (hvalues : List.Forall₂ SameContent values others) (results : List α) :
    values.mapM toml = .ok results ↔ others.mapM toml = .ok results := by
  induction hvalues generalizing results with
  | nil => exact Iff.rfl
  | cons hfirst _ ih =>
    simp only [List.mapM_cons, bind_eq_ok_iff, h hfirst, ih]

theorem blind_list {toml : Decoder α} (h : Blind toml) : Blind (Decoder.list toml) := by
  intro given other hsame results
  rw [Toml.list_eq_ok_iff, Toml.list_eq_ok_iff]
  have hitems := hsame.items?
  generalize given.items? = items? at hitems ⊢
  generalize other.items? = others? at hitems ⊢
  cases hitems with
  | none => simp
  | some hvalues => simp [h.mapM hvalues results]

/-! ### Choices -/

theorem SameContent.nothing_iff {given other : Toml.Value} (h : SameContent given other) :
    Decoder.nothing given = .ok () ↔ Decoder.nothing other = .ok () := by
  rw [Toml.nothing_eq_ok_iff, Toml.nothing_eq_ok_iff]
  cases h with
  | text value => exact Iff.rfl
  | boolean value => exact Iff.rfl
  | number hgiven hother =>
    simp [hgiven.ne_table, hother.ne_table, hgiven.items?_eq_none, hother.items?_eq_none]
  | array hgiven hother h =>
    simp only [Toml.Value.ne_table_of_items? hgiven, Toml.Value.ne_table_of_items? hother, hgiven,
      hother, false_or, Option.some.injEq]
    cases h <;> simp
  | @table entries others hkeys _ _ =>
    have hlength := hkeys.length_eq
    simp only [List.length_map] at hlength
    simp [Toml.Value.items?, ← List.length_eq_zero_iff, hlength]

theorem variant_table_ne_ok {all : List α} {name : α → String} {entries : Toml.Table}
    (h : entries.length ≠ 1) (choice : α) :
    Decoder.variant all name (.table entries) ≠ .ok choice := by
  match entries with
  | [] => nofun
  | [_] => exact absurd rfl h
  | _ :: _ :: _ => nofun

theorem blind_variant (all : List α) (name : α → String) : Blind (Decoder.variant all name) := by
  intro given other hsame choice
  cases hsame with
  | text value => exact Iff.rfl
  | boolean value => exact Iff.rfl
  | number hgiven hother =>
    exact iff_of_false (toml_variant_ne_ok hgiven.ne_text hgiven.ne_table choice)
      (toml_variant_ne_ok hother.ne_text hother.ne_table choice)
  | array hgiven hother _ =>
    have hne {value : Toml.Value} {values : List Toml.Value} (h : value.items? = some values) :
        Decoder.variant all name value ≠ .ok choice :=
      toml_variant_ne_ok (Toml.Value.ne_text_of_items? h) (Toml.Value.ne_table_of_items? h) choice
    exact iff_of_false (hne hgiven) (hne hother)
  | @table entries others hkeys _ hlookup =>
    have hlength := hkeys.length_eq
    simp only [List.length_map] at hlength
    by_cases hone : entries.length = 1
    · obtain ⟨⟨key, content⟩, rfl⟩ := List.length_eq_one_iff.1 hone
      obtain ⟨⟨key', content'⟩, rfl⟩ := List.length_eq_one_iff.1 (hlength ▸ hone)
      have hkey : key = key' := by simpa using hkeys
      subst hkey
      have hcontent := hlookup key
      simp only [List.lookup_cons, beq_self_eq_true] at hcontent
      cases hcontent with
      | some hsame =>
        simp only [Decoder.variant, bind_eq_ok_iff, hsame.nothing_iff]
    · exact iff_of_false (variant_table_ne_ok hone choice)
        (variant_table_ne_ok (hlength ▸ hone) choice)

/-! ### Records -/

theorem alongside_zip {names : List String} {values others : List Toml.Value}
    (h : List.Forall₂ SameContent values others) :
    Alongside SameContent (names.zip values) (names.zip others) := by
  induction h generalizing names with
  | nil =>
    rw [List.zip_nil_right]
    exact .nil
  | cons hfirst _ ih =>
    cases names with
    | nil => exact .nil
    | cons name names => exact .cons hfirst ih

section Records

variable {field : Type} {record : Record field α} {decode : field → α → Decoder α}

theorem fieldForm_congr {read : Decoder β} (h : Blind read) {required : Bool} {default part : β}
    {given other : Option Toml.Value} (hgiven : Option.Rel SameContent given other) :
    FieldForm read required default given part ↔ FieldForm read required default other part := by
  cases hgiven with
  | none => exact Iff.rfl
  | some hsame => exact h hsame part

theorem not_recordForm_of_isNumber {parts : record.Components decode} {value : Toml.Value}
    (h : value.IsNumber) {result : α} : ¬ RecordForm parts value result := by
  rintro ⟨given, hgives, -⟩
  exact not_gives h.ne_table h.items?_eq_none given hgives

theorem blind_record [DecidableEq field] (parts : record.Components decode)
    (hdatetime : Toml.datetimeKey ∉ record.labels) (h : ∀ index, Blind (parts.read index)) :
    Blind (Decoder.record record decode) := by
  intro given other hsame result
  rw [record_eq_ok_iff parts hdatetime, record_eq_ok_iff parts hdatetime, RecordForm, RecordForm]
  cases hsame with
  | array hgiven hother hvalues =>
    simp only [gives_iff_of_items? hgiven, gives_iff_of_items? hother, exists_eq_left]
    exact forall_congr' fun index ↦
      fieldForm_congr (h index) ((alongside_zip hvalues).lookup (record.label index))
  | table hkeys hnodup hlookup =>
    simp only [gives_table_iff, and_assoc, exists_and_left, exists_eq_left]
    refine and_congr ?_ (and_congr hkeys.nodup_iff ?_)
    · simp only [hkeys.mem_iff]
    · exact forall_congr' fun index ↦ fieldForm_congr (h index) (hlookup (record.label index))
  | number hgiven hother =>
    exact iff_of_false (not_recordForm_of_isNumber hgiven) (not_recordForm_of_isNumber hother)
  | text value => exact Iff.rfl
  | boolean value => exact Iff.rfl

end Records

/-! ### Type descriptions -/

theorem blind_descriptor : Blind (Descriptor.decoder (D := Decoder)) :=
  (blind_text .text).map Descriptor.mk

theorem blind_constructor : Blind (Constructor.decoder (D := Decoder)) := by
  refine blind_record Constructor.components (by decide) fun index ↦ ?_
  cases index with
  | params => exact blind_list blind_descriptor
  | visibility => exact blind_variant _ _

theorem blind_method : Blind (Method.decoder (D := Decoder)) := by
  refine blind_record Method.components (by decide) fun index ↦ ?_
  cases index with
  | name => exact blind_text _
  | params => exact blind_list blind_descriptor
  | static => exact blind_boolean
  | visibility => exact blind_variant _ _

theorem blind_typeInfo : Blind (TypeInfo.decoder (D := Decoder)) := by
  refine blind_record TypeInfo.components (by decide) fun index ↦ ?_
  cases index with
  | descriptor => exact blind_descriptor
  | enum => exact blind_boolean
  | constructors => exact blind_list blind_constructor
  | methods => exact blind_list blind_method

/-! ### Trees that fit -/

/-- What is asked of a tree does not depend on the order of keys. -/
def Keeps (fits : Json.Value → Prop) : Prop :=
  ∀ ⦃value other⦄, Reordered value other → fits value → fits other

theorem keeps_true : Keeps fun _ ↦ True := fun _ _ _ _ ↦ trivial

theorem keeps_notObject : Keeps NotObject := by
  intro value other hreordered h
  cases hreordered with
  | object _ _ => exact h
  | _ => trivial

theorem keeps_itemsFit {fits : Json.Value → Prop} (h : Keeps fits) : Keeps (ItemsFit fits) := by
  intro value other hreordered hvalue
  cases hreordered with
  | array hitems =>
    intro other hother
    obtain ⟨item, hitem, hreordered⟩ := exists_rel_of_mem_right hitems hother
    exact h hreordered (hvalue item hitem)
  | _ => trivial

theorem forall_zip_of_forall₂ {field : Type} {fits : field → Json.Value → Prop}
    (h : ∀ index, Keeps (fits index)) {items others : List Json.Value}
    (hitems : List.Forall₂ Reordered items others) {fields : List field}
    (hfits : ∀ place ∈ fields.zip items, fits place.1 place.2) :
    ∀ place ∈ fields.zip others, fits place.1 place.2 := by
  induction hitems generalizing fields with
  | nil => exact hfits
  | cons hfirst _ ih =>
    cases fields with
    | nil => exact hfits
    | cons index fields =>
      obtain ⟨hfit, hfits⟩ := List.forall_mem_cons.1 hfits
      exact List.forall_mem_cons.2 ⟨h index hfirst hfit, ih hfits⟩

theorem keeps_record {field α : Type} {record : Record field α}
    {fits : field → Json.Value → Prop} (h : ∀ index, Keeps (fits index)) :
    Keeps (record.Fits fits) := by
  intro value other hreordered hvalue
  cases hreordered with
  | scalar _ => trivial
  | array hitems =>
    exact ⟨hitems.length_eq ▸ hvalue.1, forall_zip_of_forall₂ h hitems hvalue.2⟩
  | object hmembers hperm =>
    intro index other hother
    obtain ⟨value, hmember, hreordered⟩ := hmembers.exists_of_mem_right (hperm.mem_iff.2 hother)
    exact h index hreordered (hvalue index value hmember)

theorem keeps_constructor : Keeps Constructor.Fits := by
  refine keeps_record fun index ↦ ?_
  cases index with
  | params => exact keeps_true
  | visibility => exact keeps_notObject

theorem keeps_method : Keeps Method.Fits := by
  refine keeps_record fun index ↦ ?_
  cases index with
  | visibility => exact keeps_notObject
  | _ => exact keeps_true

theorem keeps_typeInfo : Keeps TypeInfo.Fits := by
  refine keeps_record fun index ↦ ?_
  cases index with
  | constructors => exact keeps_itemsFit keeps_constructor
  | methods => exact keeps_itemsFit keeps_method
  | _ => exact keeps_true

end JvmSchema
