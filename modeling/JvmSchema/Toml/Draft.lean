import JvmSchema.Toml.Value

/-!
# Tables under construction

While a document is read, a table remembers what made it: a header of its own, a longer header that
passes through it, or the dots of a key. A header may complete a table of the second sort, and
dotted keys may add to tables of the last two sorts; no table or value is given twice.
-/

set_option autoImplicit false
set_option relaxedAutoImplicit false

namespace JvmSchema.Toml

/-- What made a table. -/
inductive Origin
  | header
  | passed
  | dotted
  deriving DecidableEq, Repr

/-- An entry of a table under construction. -/
inductive Node
  | leaf (value : Value)
  | table (origin : Origin) (entries : List (String × Node))
  | sections (tables : List (List (String × Node)))

/-- The entries of a table under construction. -/
abbrev Draft : Type := List (String × Node)

mutual

/-- The finished value of an entry. -/
def Node.value : Node → Value
  | .leaf value => value
  | .table _ entries => .table (finish entries)
  | .sections tables => .sections (finishAll tables)

/-- The finished entries of a table. -/
def finish : List (String × Node) → List (String × Value)
  | [] => []
  | (key, node) :: rest => (key, node.value) :: finish rest

/-- The finished entries of several tables. -/
def finishAll : List (List (String × Node)) → List (List (String × Value))
  | [] => []
  | entries :: rest => finish entries :: finishAll rest

end

namespace Draft

/-- The entry with the given key. -/
def find? (draft : Draft) (key : String) : Option Node :=
  (List.find? (fun entry ↦ entry.1 = key) draft).map Prod.snd

/-- Puts another entry in the place of the one with the given key. -/
def replace (draft : Draft) (key : String) (node : Node) : Draft :=
  draft.map fun entry ↦ if entry.1 = key then (key, node) else entry

/-- Adds an entry, last in order. -/
def add (draft : Draft) (key : String) (node : Node) : Draft :=
  draft ++ [(key, node)]

/-- Takes the entry with the given key out. -/
def remove (draft : Draft) (key : String) : Draft :=
  draft.filter fun entry ↦ entry.1 ≠ key

/-- Changes the table at the end of a path, and makes the tables on the way to it that are missing.
A path through `[[name]]` tables goes on in the last of them. Dots in a key do not lead into tables
that have a header. -/
def modifyAt (dotted : Bool) (change : Origin → Draft → Option Draft) :
    List String → Origin → Draft → Option Draft
  | [], origin, draft => change origin draft
  | key :: path, _, draft =>
    match draft.find? key with
    | none => do
      let origin : Origin := if dotted then .dotted else .passed
      let entries ← modifyAt dotted change path origin []
      return draft.add key (.table origin entries)
    | some (.table origin entries) =>
      if dotted ∧ origin = .header then none
      else do
        let entries ← modifyAt dotted change path origin entries
        return draft.replace key (.table origin entries)
    | some (.sections tables) => do
      let entries ← modifyAt dotted change path .header (← tables.getLast?)
      return draft.replace key (.sections (tables.dropLast ++ [entries]))
    | some (.leaf _) => none

/-- Adds a value under a dotted key. Its last table is one that dots made. -/
def insert (draft : Draft) (path : List String) (key : String) (value : Value) : Option Draft :=
  modifyAt true (fun origin entries ↦
    if path ≠ [] ∧ origin ≠ .dotted then none
    else if (entries.find? key).isSome then none
    else some (entries.add key (.leaf value))) path .header draft

end Draft

/-- A value under its dotted key, the last part of which stands apart. -/
structure Entry where
  path : List String
  key : String
  value : Value

/-- Adds entries one after the other. -/
def Draft.insertAll (draft : Draft) (entries : List Entry) : Option Draft :=
  entries.foldlM (fun draft entry ↦ draft.insert entry.path entry.key entry.value) draft

/-- A header with the entries below it; `repeated` tells `[[name]]` from `[name]`. -/
structure Section where
  repeated : Bool
  path : List String
  key : String
  entries : List Entry

namespace Draft

/-- Adds the table of a `[name]` header. A table that longer headers made before it keeps its
entries and moves to the end. -/
def addTable (draft : Draft) (key : String) (entries : List Entry) : Option Draft :=
  match draft.find? key with
  | none => do return draft.add key (.table .header (← insertAll [] entries))
  | some (.table .passed earlier) => do
    return (draft.remove key).add key (.table .header (← insertAll earlier entries))
  | some _ => none

/-- Adds one table of a `[[name]]` header. -/
def addSection (draft : Draft) (key : String) (entries : List Entry) : Option Draft :=
  match draft.find? key with
  | none => do return draft.add key (.sections [← insertAll [] entries])
  | some (.sections tables) => do
    return draft.replace key (.sections (tables ++ [← insertAll [] entries]))
  | some _ => none

/-- Adds a header and what stands below it. -/
def place (draft : Draft) (part : Section) : Option Draft :=
  modifyAt false (fun _ inner ↦
    if part.repeated then inner.addSection part.key part.entries
    else inner.addTable part.key part.entries) part.path .header draft

end Draft

end JvmSchema.Toml
