/-!
# Schema kinds

A schema document gives every value a `type` keyword. `Kind` holds the five keywords used for JVM
types, in the order in which they sort. A keyword is read back exactly (`ofKeyword?_keyword`,
`keyword_of_ofKeyword?`): no other spelling, case or abbreviation names a kind.

In structured data a kind goes by the name of its variant, in lower case. That this is the keyword
is not by definition, but holds of all five (`dataName_eq_keyword`).
-/

set_option autoImplicit false
set_option relaxedAutoImplicit false

namespace JvmSchema

/-- The primitive `type` keyword of a schema. -/
inductive Kind
  | string
  | boolean
  | integer
  | number
  | object
  deriving DecidableEq, Repr

namespace Kind

/-- All kinds in their order. -/
def all : List Kind := [.string, .boolean, .integer, .number, .object]

/-- The keyword as a schema document writes it. -/
def keyword : Kind → String
  | .string => "string"
  | .boolean => "boolean"
  | .integer => "integer"
  | .number => "number"
  | .object => "object"

/-- The name of a kind as a variant. -/
def variantName : Kind → String
  | .string => "String"
  | .boolean => "Boolean"
  | .integer => "Integer"
  | .number => "Number"
  | .object => "Object"

/-- The name of a kind in structured data: that of the variant in lower case. -/
def dataName (kind : Kind) : String :=
  kind.variantName.toLower

/-- The position of a kind in `all`. -/
def rank : Kind → Nat
  | .string => 0
  | .boolean => 1
  | .integer => 2
  | .number => 3
  | .object => 4

/-- The kind with the given keyword. -/
def ofKeyword? (text : String) : Option Kind :=
  all.find? fun kind ↦ kind.keyword = text

/-- Kinds in increasing order of rank, repetitions kept. -/
def sort (kinds : List Kind) : List Kind :=
  kinds.mergeSort fun first second ↦ first.rank ≤ second.rank

theorem ofKeyword?_keyword (kind : Kind) : ofKeyword? kind.keyword = some kind := by
  cases kind <;> rfl

theorem keyword_of_ofKeyword? {text : String} {kind : Kind} (h : ofKeyword? text = some kind) :
    kind.keyword = text := by
  simpa using List.find?_some h

/-- Structured data and schema documents name every kind alike. -/
theorem dataName_eq_keyword (kind : Kind) : kind.dataName = kind.keyword := by
  cases kind <;> decide +kernel

theorem keyword_injective {first second : Kind} (h : first.keyword = second.keyword) :
    first = second := by
  have hread := ofKeyword?_keyword first
  rw [h, ofKeyword?_keyword] at hread
  exact (Option.some.inj hread).symm

end Kind

/-- A text that is no kind's keyword. -/
structure UnknownKind where
  text : String
  deriving DecidableEq, Repr

/-- What is said of an unknown keyword. -/
def UnknownKind.message (error : UnknownKind) : String :=
  "unknown schema kind: " ++ error.text

/-- The kind with the given keyword, or the text that names none. -/
def Kind.parse (text : String) : Except UnknownKind Kind :=
  match ofKeyword? text with
  | some kind => .ok kind
  | none => .error ⟨text⟩

theorem Kind.parse_keyword (kind : Kind) : Kind.parse kind.keyword = .ok kind := by
  rw [parse, ofKeyword?_keyword]

end JvmSchema
