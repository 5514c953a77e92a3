import JvmSchema.Proofs.JsonReading
import JvmSchema.Proofs.RecordReading
import Mathlib.Data.List.Perm.Basic

/-!
# Values that both formats write

A tree of texts, truth values, numbers, arrays and objects is a value of either format. It is
written here as a JSON value without nulls whose keys are distinct in every object
(`Json.Value.IsTree`), and `Shows` says which TOML values are the same tree. An array of tables may
be written in two ways in TOML, and the formats may round a number differently, so a tree may be
shown by several values.

Trees that differ in the order of keys only are `Reordered`.
-/

set_option autoImplicit false
set_option relaxedAutoImplicit false

namespace JvmSchema

/-! ### Trees -/

namespace Json

def Scalar.IsNumber : Scalar → Prop
  | .integer _ => True
  | .float _ => True
  | _ => False

/-- A value without nulls, with distinct keys in every object. -/
inductive Value.IsTree : Value → Prop
  | text (value : String) : IsTree (.text value)
  | boolean (value : Bool) : IsTree (.boolean value)
  | number {value : Scalar} (h : value.IsNumber) : IsTree (.scalar value)
  | array {items : List Value} (h : ∀ item ∈ items, IsTree item) : IsTree (.array items)
  | object {members : List (String × Value)} (hkeys : (members.map Prod.fst).Nodup)
    (h : ∀ member ∈ members, IsTree member.2) : IsTree (.object members)

end Json

def Toml.Value.IsNumber : Toml.Value → Prop
  | .integer _ => True
  | .float _ => True
  | _ => False

namespace Toml.Value

variable {value : Value}

theorem IsNumber.items?_eq_none (h : value.IsNumber) : value.items? = none := by
  cases value <;> first | rfl | exact absurd h id

theorem IsNumber.ne_text (h : value.IsNumber) (text : String) : value ≠ .text text := by
  rintro rfl
  exact h

theorem IsNumber.ne_boolean (h : value.IsNumber) (truth : Bool) : value ≠ .boolean truth := by
  rintro rfl
  exact h

theorem IsNumber.ne_table (h : value.IsNumber) (entries : Table) : value ≠ .table entries := by
  rintro rfl
  exact h

variable {items : List Value}

theorem ne_text_of_items? (h : value.items? = some items) (text : String) :
    value ≠ .text text := by
  rintro rfl
  cases h

theorem ne_boolean_of_items? (h : value.items? = some items) (truth : Bool) :
    value ≠ .boolean truth := by
  rintro rfl
  cases h

theorem ne_table_of_items? (h : value.items? = some items) (entries : Table) :
    value ≠ .table entries := by
  rintro rfl
  cases h

end Toml.Value

/-- Members of the same names in the same order, with related values. -/
inductive Alongside {α β : Type} (related : α → β → Prop) :
    List (String × α) → List (String × β) → Prop
  | nil : Alongside related [] []
  | cons {name : String} {first : α} {other : β} {members : List (String × α)}
    {others : List (String × β)} (h : related first other)
    (hrest : Alongside related members others) :
    Alongside related ((name, first) :: members) ((name, other) :: others)

/-- The TOML value is the same tree as the JSON value. -/
inductive Shows : Json.Value → Toml.Value → Prop
  | text (value : String) : Shows (.text value) (.text value)
  | boolean (value : Bool) : Shows (.boolean value) (.boolean value)
  | number {value : Json.Scalar} {given : Toml.Value} (hvalue : value.IsNumber)
    (hgiven : given.IsNumber) : Shows (.scalar value) given
  | array {items : List Json.Value} {given : Toml.Value} {values : List Toml.Value}
    (hgiven : given.items? = some values) (h : List.Forall₂ Shows items values) :
    Shows (.array items) given
  | object {members : List (String × Json.Value)} {entries : Toml.Table}
    (h : Alongside Shows members entries) : Shows (.object members) (.table entries)

/-- The values differ in the order of keys only, at any depth. -/
inductive Reordered : Json.Value → Json.Value → Prop
  | scalar (value : Json.Scalar) : Reordered (.scalar value) (.scalar value)
  | array {items others : List Json.Value} (h : List.Forall₂ Reordered items others) :
    Reordered (.array items) (.array others)
  | object {members between others : List (String × Json.Value)}
    (h : Alongside Reordered members between) (hperm : between.Perm others) :
    Reordered (.object members) (.object others)

section Lists

variable {α β : Type} {related : α → β → Prop}

namespace Alongside

variable {members : List (String × α)} {others : List (String × β)}

theorem map_fst_eq (h : Alongside related members others) :
    members.map Prod.fst = others.map Prod.fst := by
  induction h with
  | nil => rfl
  | cons _ _ ih => rw [List.map_cons, List.map_cons, ih]

theorem exists_of_mem_right (h : Alongside related members others) {name : String} {other : β}
    (hother : (name, other) ∈ others) : ∃ value, (name, value) ∈ members ∧ related value other := by
  induction h with
  | nil => exact absurd hother List.not_mem_nil
  | cons hfirst _ ih =>
    rcases List.mem_cons.1 hother with heq | hother
    · cases heq
      exact ⟨_, List.mem_cons_self, hfirst⟩
    · obtain ⟨value, hvalue, hrelated⟩ := ih hother
      exact ⟨value, List.mem_cons_of_mem _ hvalue, hrelated⟩

theorem exists_of_forall {members : List (String × α)}
    (h : ∀ member ∈ members, ∃ other, related member.2 other) :
    ∃ others, Alongside related members others := by
  induction members with
  | nil => exact ⟨[], .nil⟩
  | cons member members ih =>
    obtain ⟨⟨other, hfirst⟩, hmembers⟩ := List.forall_mem_cons.1 h
    obtain ⟨others, hothers⟩ := ih hmembers
    exact ⟨(member.1, other) :: others, .cons hfirst hothers⟩

end Alongside

end Lists

namespace Json.Value.IsTree

theorem reordered {value other : Value} (h : value.IsTree) (hother : Reordered value other) :
    other.IsTree := by
  induction h generalizing other with
  | text value =>
    cases hother
    exact .text value
  | boolean value =>
    cases hother
    exact .boolean value
  | number h =>
    cases hother
    exact .number h
  | array _ ih =>
    cases hother with
    | array hitems =>
      refine .array fun other hother ↦ ?_
      obtain ⟨item, hitem, hreordered⟩ := exists_rel_of_mem_right hitems hother
      exact ih item hitem hreordered
  | object hkeys _ ih =>
    cases hother with
    | object hmembers hperm =>
      refine .object ?_ fun other hother ↦ ?_
      · rwa [← (hperm.map Prod.fst).nodup_iff, ← hmembers.map_fst_eq]
      · obtain ⟨value, hvalue, hreordered⟩ :=
          hmembers.exists_of_mem_right (hperm.mem_iff.2 hother)
        exact ih _ hvalue hreordered

/-- Every tree is a TOML value too. -/
theorem exists_shows {value : Value} (h : value.IsTree) : ∃ given, Shows value given := by
  induction h with
  | text value => exact ⟨_, .text value⟩
  | boolean value => exact ⟨_, .boolean value⟩
  | number h => exact ⟨.integer 0, .number h trivial⟩
  | array _ ih =>
    obtain ⟨values, hvalues⟩ := exists_forall₂ ih
    exact ⟨.array values, .array rfl hvalues⟩
  | object _ _ ih =>
    obtain ⟨entries, hentries⟩ := Alongside.exists_of_forall ih
    exact ⟨.table entries, .object hentries⟩

end Json.Value.IsTree

/-! ### What a tree is shown by -/

namespace Shows

variable {value : Json.Value} {given : Toml.Value}

theorem text_iff (h : Shows value given) {content : String} :
    value = .text content ↔ given = .text content := by
  cases h with
  | text other => simp [Json.Value.text]
  | boolean other => simp [Json.Value.text, Json.Value.boolean]
  | number hvalue hgiven =>
    exact iff_of_false (by rintro ⟨⟩; exact hvalue) (hgiven.ne_text content)
  | array hgiven h => exact iff_of_false nofun (Toml.Value.ne_text_of_items? hgiven content)
  | object h => exact iff_of_false nofun nofun

theorem boolean_iff (h : Shows value given) {content : Bool} :
    value = .boolean content ↔ given = .boolean content := by
  cases h with
  | text other => simp [Json.Value.text, Json.Value.boolean]
  | boolean other => simp [Json.Value.boolean]
  | number hvalue hgiven =>
    exact iff_of_false (by rintro ⟨⟩; exact hvalue) (hgiven.ne_boolean content)
  | array hgiven h => exact iff_of_false nofun (Toml.Value.ne_boolean_of_items? hgiven content)
  | object h => exact iff_of_false nofun nofun

theorem isNumber {scalar : Json.Scalar} (h : Shows (.scalar scalar) given)
    (hscalar : scalar.IsNumber) : given.IsNumber := by
  cases h with
  | text _ => exact absurd hscalar id
  | boolean _ => exact absurd hscalar id
  | number _ hgiven => exact hgiven

theorem exists_items {items : List Json.Value} (h : Shows (.array items) given) :
    ∃ values, given.items? = some values ∧ List.Forall₂ Shows items values := by
  cases h with
  | array hgiven h => exact ⟨_, hgiven, h⟩

theorem exists_item (h : Shows (.array [value]) given) :
    ∃ item, given.items? = some [item] ∧ Shows value item := by
  obtain ⟨values, hvalues, hshows⟩ := h.exists_items
  cases hshows with
  | cons hshows hrest =>
    cases hrest
    exact ⟨_, hvalues, hshows⟩

theorem items?_eq_none (h : Shows value given) (harray : ∀ items, value ≠ .array items) :
    given.items? = none := by
  cases h with
  | number _ hgiven => exact hgiven.items?_eq_none
  | @array items => exact absurd rfl (harray items)
  | _ => rfl

theorem ne_table (h : Shows value given) (hobject : ∀ members, value ≠ .object members)
    (entries : Toml.Table) : given ≠ .table entries := by
  cases h with
  | number _ hgiven => exact hgiven.ne_table entries
  | array hgiven _ => exact Toml.Value.ne_table_of_items? hgiven entries
  | @object members => exact absurd rfl (hobject members)
  | _ => nofun

end Shows

end JvmSchema
