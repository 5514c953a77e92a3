/-!
# TOML documents

A document is a table; a table keeps its entries in order, with distinct keys. Tables that a
document writes as `[[name]]` sections are kept apart from arrays of inline tables, because a
message names them differently.

Whether two values are the same can be decided (`Value.same_iff`), so what a document reads as can
be evaluated.
-/

set_option autoImplicit false
set_option relaxedAutoImplicit false

namespace JvmSchema.Toml

/-- A TOML value. A date or a time is kept as it was written. -/
inductive Value
  | text (value : String)
  | integer (value : Int)
  | float (value : Float)
  | boolean (value : Bool)
  | datetime (written : String)
  | array (items : List Value)
  | table (entries : List (String × Value))
  | sections (tables : List (List (String × Value)))

namespace Value

/-! ### Equality -/

mutual

/-- Whether two values are the same. -/
def same : Value → Value → Bool
  | .text first, .text second => first = second
  | .integer first, .integer second => first = second
  | .float first, .float second => first = second
  | .boolean first, .boolean second => first = second
  | .datetime first, .datetime second => first = second
  | .array first, .array second => sameItems first second
  | .table first, .table second => sameEntries first second
  | .sections first, .sections second => sameTables first second
  | _, _ => false

def sameItems : List Value → List Value → Bool
  | [], [] => true
  | first :: rest, second :: others => same first second ∧ sameItems rest others
  | _, _ => false

def sameEntries : List (String × Value) → List (String × Value) → Bool
  | [], [] => true
  | (name, first) :: rest, (other, second) :: others =>
    name = other ∧ same first second ∧ sameEntries rest others
  | _, _ => false

def sameTables : List (List (String × Value)) → List (List (String × Value)) → Bool
  | [], [] => true
  | first :: rest, second :: others => sameEntries first second ∧ sameTables rest others
  | _, _ => false

end

mutual

theorem same_iff (first second : Value) : first.same second ↔ first = second := by
  cases first with
  | array items => cases second <;> simp [same, sameItems_iff items]
  | table entries => cases second <;> simp [same, sameEntries_iff entries]
  | sections tables => cases second <;> simp [same, sameTables_iff tables]
  | _ => cases second <;> simp [same]

theorem sameItems_iff (items others : List Value) : sameItems items others ↔ items = others := by
  cases items with
  | nil => cases others <;> simp [sameItems]
  | cons item rest => cases others <;> simp [sameItems, same_iff item, sameItems_iff rest]

theorem sameEntries_iff (entries others : List (String × Value)) :
    sameEntries entries others ↔ entries = others := by
  cases entries with
  | nil => cases others <;> simp [sameEntries]
  | cons entry rest =>
    obtain ⟨name, value⟩ := entry
    cases others with
    | nil => simp [sameEntries]
    | cons other others =>
      obtain ⟨name', value'⟩ := other
      simp [sameEntries, same_iff value, sameEntries_iff rest, and_assoc]

theorem sameTables_iff (tables others : List (List (String × Value))) :
    sameTables tables others ↔ tables = others := by
  cases tables with
  | nil => cases others <;> simp [sameTables]
  | cons table rest =>
    cases others <;> simp [sameTables, sameEntries_iff table, sameTables_iff rest]

end

instance : DecidableEq Value := fun first second ↦ decidable_of_iff _ (first.same_iff second)

end Value

/-- The entries of a table by key. -/
abbrev Table : Type := List (String × Value)

end JvmSchema.Toml
