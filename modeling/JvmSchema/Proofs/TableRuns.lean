import JvmSchema.Proofs.DescriptorOrder
import JvmSchema.Proofs.TableEntries
import JvmSchema.TypeTable.File
import JvmSchema.TypeTable.Jdk
import Mathlib.Data.Set.Card
import Mathlib.Logic.Function.Basic

/-!
# Runs of table operations

Two tables go through any sequence of operations (`Operation`): making one anew, reading it from a
document, adding a description, merging, copying and exchanging the two. Beside each table stands a
map from keys to descriptions (`Stored`), which knows nothing of tables: adding a description writes
it under its descriptor, and merging moves what is stored without a look at it.

`Represents` is the invariant. A table answers as its map does, and the map stores every description
under its own descriptor. `step_represents` keeps it through one operation and `run_represents`
through all of them. `Refines` lists what then holds of a table: its answers, its size, and its
entries, which stand in the one order that any enumeration of the stored descriptions sorts into.
-/

set_option autoImplicit false
set_option relaxedAutoImplicit false

namespace JvmSchema.TableRuns

open TypeTable

/-! ### Operations on two tables -/

/-- An operation on two tables, the current one and another. -/
inductive Operation
  | new
  | jdk
  | read (document : String)
  | insert (info : TypeInfo)
  | extend
  | copy
  | swap

/-- What an operation answers: nothing, what an added description replaces, or that a document is
refused. -/
inductive Answer
  | done
  | replaced (previous : Option TypeInfo)
  | refused
  deriving DecidableEq, Repr

/-- Two states side by side. -/
structure Registers (α : Type) where
  current : α
  other : α

/-- Takes up what has been read, unless it was refused. -/
def Registers.accept {α : Type} (registers : Registers α) : Option α → Answer × Registers α
  | some value => (.done, { registers with current := value })
  | none => (.refused, registers)

/-- One operation on tables. -/
def step (tables : Registers TypeTable) : Operation → Answer × Registers TypeTable
  | .new => (.done, { tables with current := empty })
  | .jdk => (.done, { tables with current := TypeTable.jdk })
  | .read document => tables.accept (ofToml document).toOption
  | .insert info =>
    (.replaced (tables.current.exchange info).1,
      { tables with current := (tables.current.exchange info).2 })
  | .extend => (.done, { tables with current := tables.current.extend tables.other })
  | .copy => (.done, { tables with other := tables.current })
  | .swap => (.done, ⟨tables.other, tables.current⟩)

/-- Operations one after the other, with their answers in order. -/
def run {σ : Type} (step : σ → Operation → Answer × σ) (start : σ) :
    List Operation → List Answer × σ
  | [] => ([], start)
  | operation :: rest =>
    let next := step start operation
    ((next.1 :: (run step next.2 rest).1), (run step next.2 rest).2)

/-! ### The same on maps -/

/-- What is stored under each key. -/
abbrev Stored : Type := Descriptor → Option TypeInfo

namespace Stored

/-- Nothing under any key. -/
def empty : Stored := fun _ ↦ none

/-- Writes a description under its descriptor. -/
def put (stored : Stored) (info : TypeInfo) : Stored :=
  Function.update stored info.descriptor (some info)

/-- Descriptions written one after the other. -/
def ofList (infos : List TypeInfo) : Stored :=
  infos.foldl put empty

/-- Moves everything stored in another map over what this one stores under the same keys. -/
def override (stored other : Stored) : Stored :=
  fun key ↦ (other key).or (stored key)

end Stored

/-- The descriptions that a document lists. -/
def listedIn (document : String) : Except Toml.Error (List TypeInfo) := do
  Toml.decode fileDecoder (← Toml.parse document)

/-- What a document stores, unless it is malformed or lists a type twice. -/
def Stored.ofDocument? (document : String) : Option Stored :=
  match listedIn document with
  | .ok infos => if (infos.map TypeInfo.descriptor).Nodup then some (ofList infos) else none
  | .error _ => none

/-- One operation on maps. -/
def storedStep (maps : Registers Stored) : Operation → Answer × Registers Stored
  | .new => (.done, { maps with current := Stored.empty })
  | .jdk => (.done, { maps with current := Stored.ofList jdkTypes })
  | .read document => maps.accept (Stored.ofDocument? document)
  | .insert info =>
    (.replaced (maps.current info.descriptor), { maps with current := maps.current.put info })
  | .extend => (.done, { maps with current := maps.current.override maps.other })
  | .copy => (.done, { maps with other := maps.current })
  | .swap => (.done, ⟨maps.other, maps.current⟩)

/-! ### Descriptions under their own keys -/

/-- Every description is stored under its own descriptor. -/
def Stored.Keyed (stored : Stored) : Prop :=
  ∀ key info, stored key = some info → info.descriptor = key

namespace Stored

theorem keyed_empty : empty.Keyed := by
  intro key info h
  simp [empty] at h

theorem put_apply (stored : Stored) (info : TypeInfo) (key : Descriptor) :
    stored.put info key = if info.descriptor = key then some info else stored key := by
  simp only [put, Function.update_apply, eq_comm]

theorem keyed_put {stored : Stored} (h : stored.Keyed) (info : TypeInfo) :
    (stored.put info).Keyed := by
  intro key other hother
  rw [put_apply] at hother
  split at hother
  next hkey => exact Option.some.inj hother ▸ hkey
  next => exact h key other hother

theorem keyed_override {stored other : Stored} (h : stored.Keyed) (hother : other.Keyed) :
    (stored.override other).Keyed := by
  intro key info hinfo
  rcases Option.or_eq_some_iff.1 hinfo with hinfo | ⟨-, hinfo⟩
  · exact hother key info hinfo
  · exact h key info hinfo

end Stored

/-! ### The invariant -/

/-- The table answers as the map does, and the map stores descriptions under their own keys. -/
structure Represents (table : TypeTable) (stored : Stored) : Prop where
  get?_eq (descriptor : Descriptor) : table.get? descriptor = stored descriptor
  keyed : stored.Keyed

theorem represents_empty : Represents empty Stored.empty where
  get?_eq := get?_empty
  keyed := Stored.keyed_empty

theorem represents_insert {table : TypeTable} {stored : Stored} (h : Represents table stored)
    (info : TypeInfo) : Represents (table.insert info) (stored.put info) where
  get?_eq descriptor := by
    rw [get?_insert, Stored.put_apply, h.get?_eq]
  keyed := Stored.keyed_put h.keyed info

/-- What an added description replaces is what was stored under its descriptor. -/
theorem fst_exchange_of_represents {table : TypeTable} {stored : Stored}
    (h : Represents table stored) (info : TypeInfo) :
    (table.exchange info).1 = stored info.descriptor := by
  rw [fst_exchange, h.get?_eq]

theorem represents_insertAll {table : TypeTable} {stored : Stored} (h : Represents table stored)
    (infos : List TypeInfo) :
    Represents (table.insertAll infos) (infos.foldl Stored.put stored) := by
  induction infos generalizing table stored with
  | nil => exact h
  | cons info rest ih => exact ih (represents_insert h info)

theorem represents_extend {table other : TypeTable} {stored stored' : Stored}
    (h : Represents table stored) (hother : Represents other stored') :
    Represents (table.extend other) (stored.override stored') where
  get?_eq descriptor := by
    rw [get?_extend, h.get?_eq, hother.get?_eq, Stored.override]
  keyed := Stored.keyed_override h.keyed hother.keyed

/-- Both tables answer as their maps do. -/
structure BothRepresent (tables : Registers TypeTable) (maps : Registers Stored) : Prop where
  current : Represents tables.current maps.current
  other : Represents tables.other maps.other

/-! ### Reading a document -/

theorem ofToml_eq (document : String) :
    ofToml document = ((listedIn document).mapError .invalid).bind ofInfos := by
  rw [ofToml, listedIn]
  cases Toml.parse document with
  | error error => rfl
  | ok parsed => rfl

theorem toOption_ofInfos (infos : List TypeInfo) : (ofInfos infos).toOption =
    if (infos.map TypeInfo.descriptor).Nodup then some (empty.insertAll infos) else none := by
  rw [ofInfos]
  by_cases hnodup : (infos.map TypeInfo.descriptor).Nodup
  · rw [if_pos hnodup, ofDistinct_eq_ok_iff.2 ⟨hnodup, rfl⟩]
    rfl
  · rw [if_neg hnodup]
    cases hdistinct : ofDistinct infos with
    | ok table => exact absurd (ofDistinct_eq_ok_iff.1 hdistinct).1 hnodup
    | error descriptor => rfl

/-- A document is refused on both sides, or makes a table that answers as what it stores. -/
theorem rel_ofDocument? (document : String) :
    Option.Rel Represents (ofToml document).toOption (Stored.ofDocument? document) := by
  rw [ofToml_eq, Stored.ofDocument?]
  cases listedIn document with
  | error error => exact .none
  | ok infos =>
    change Option.Rel Represents (ofInfos infos).toOption _
    rw [toOption_ofInfos]
    by_cases hnodup : (infos.map TypeInfo.descriptor).Nodup
    · simp only [if_pos hnodup]
      exact .some (represents_insertAll represents_empty infos)
    · simp only [if_neg hnodup]
      exact .none

theorem accept_represents {tables : Registers TypeTable} {maps : Registers Stored}
    (h : BothRepresent tables maps) {table : Option TypeTable} {stored : Option Stored}
    (hread : Option.Rel Represents table stored) :
    (tables.accept table).1 = (maps.accept stored).1 ∧
      BothRepresent (tables.accept table).2 (maps.accept stored).2 := by
  cases hread with
  | some hnew => exact ⟨rfl, hnew, h.other⟩
  | none => exact ⟨rfl, h⟩

/-! ### One operation, and a run of them -/

theorem step_represents {tables : Registers TypeTable} {maps : Registers Stored}
    (h : BothRepresent tables maps) (operation : Operation) :
    (step tables operation).1 = (storedStep maps operation).1 ∧
      BothRepresent (step tables operation).2 (storedStep maps operation).2 := by
  cases operation with
  | new => exact ⟨rfl, represents_empty, h.other⟩
  | jdk => exact ⟨rfl, represents_insertAll represents_empty jdkTypes, h.other⟩
  | read document => exact accept_represents h (rel_ofDocument? document)
  | insert info =>
    have hreplaced := fst_exchange_of_represents h.current info
    exact ⟨congrArg Answer.replaced hreplaced, represents_insert h.current info, h.other⟩
  | extend => exact ⟨rfl, represents_extend h.current h.other, h.other⟩
  | copy => exact ⟨rfl, h.current, h.current⟩
  | swap => exact ⟨rfl, h.other, h.current⟩

theorem run_represents {tables : Registers TypeTable} {maps : Registers Stored}
    (h : BothRepresent tables maps) (operations : List Operation) :
    (run step tables operations).1 = (run storedStep maps operations).1 ∧
      BothRepresent (run step tables operations).2 (run storedStep maps operations).2 := by
  induction operations generalizing tables maps with
  | nil => exact ⟨rfl, h⟩
  | cons operation rest ih =>
    obtain ⟨hanswer, hnext⟩ := step_represents h operation
    obtain ⟨hanswers, hlast⟩ := ih hnext
    exact ⟨congrArg₂ List.cons hanswer hanswers, hlast⟩

/-! ### What holds of a table in every state -/

/-- Descriptions put in the order of their descriptors. -/
def sortByDescriptor (infos : List TypeInfo) : List TypeInfo :=
  infos.mergeSort fun first second ↦ ¬ second.descriptor < first.descriptor

theorem increasing_sortByDescriptor {infos : List TypeInfo}
    (h : (infos.map TypeInfo.descriptor).Nodup) : TypeInfo.Increasing (sortByDescriptor infos) :=
  Descriptor.pairwise_mergeSort TypeInfo.descriptor h

/-- A table and what is stored by keys are the same finite map: the answers agree, the sizes agree,
and the entries are the stored descriptions in the order of their descriptors. -/
structure Refines (table : TypeTable) (stored : Stored) : Prop where
  keyed : stored.Keyed
  get?_eq (descriptor : Descriptor) : table.get? descriptor = stored descriptor
  contains_iff (descriptor : Descriptor) :
    table.contains descriptor ↔ (stored descriptor).isSome
  resolve_eq (descriptor : Descriptor) :
    Id.run (table.resolver.resolve descriptor) = (stored descriptor).map TypeInfo.shape
  exchange_eq (info : TypeInfo) : (table.exchange info).1 = stored info.descriptor
  finite : {key | (stored key).isSome}.Finite
  size_eq : table.size = {key | (stored key).isSome}.ncard
  isEmpty_iff : table.isEmpty ↔ ∀ key, stored key = none
  mem_entries_iff (info : TypeInfo) : info ∈ table.entries ↔ ∃ key, stored key = some info
  nodup : table.entries.Nodup
  increasing : TypeInfo.Increasing table.entries
  sortByDescriptor_eq (values : List TypeInfo) (hnodup : values.Nodup)
    (hvalues : ∀ info, info ∈ values ↔ ∃ key, stored key = some info) :
    sortByDescriptor values = table.entries

theorem mem_entries_iff_of_represents {table : TypeTable} {stored : Stored}
    (h : Represents table stored) (info : TypeInfo) :
    info ∈ table.entries ↔ ∃ key, stored key = some info := by
  rw [mem_entries_iff, h.get?_eq]
  constructor
  · exact fun hinfo ↦ ⟨info.descriptor, hinfo⟩
  · rintro ⟨key, hkey⟩
    rw [h.keyed key info hkey]
    exact hkey

theorem coe_descriptors_of_represents {table : TypeTable} {stored : Stored}
    (h : Represents table stored) :
    (table.descriptors : Set Descriptor) = {key | (stored key).isSome} := by
  ext key
  simp [h.get?_eq]

theorem nodup_map_descriptor_of_keyed {stored : Stored} {values : List TypeInfo}
    (h : stored.Keyed) (hnodup : values.Nodup)
    (hvalues : ∀ info ∈ values, ∃ key, stored key = some info) :
    (values.map TypeInfo.descriptor).Nodup := by
  refine List.Nodup.map_on (fun first hfirst second hsecond heq ↦ ?_) hnodup
  obtain ⟨key, hkey⟩ := hvalues first hfirst
  obtain ⟨key', hkey'⟩ := hvalues second hsecond
  rw [← h key first hkey] at hkey
  rw [← h key' second hkey', ← heq, hkey] at hkey'
  exact Option.some.inj hkey'

theorem refines_of_represents {table : TypeTable} {stored : Stored}
    (h : Represents table stored) : Refines table stored where
  keyed := h.keyed
  get?_eq := h.get?_eq
  contains_iff descriptor := by rw [contains, h.get?_eq]
  resolve_eq descriptor := by
    rw [← h.get?_eq]
    rfl
  exchange_eq := fst_exchange_of_represents h
  finite := by
    rw [← coe_descriptors_of_represents h]
    exact Finset.finite_toSet _
  size_eq := by
    rw [← coe_descriptors_of_represents h, Set.ncard_coe_finset, card_descriptors]
  isEmpty_iff := by
    rw [isEmpty, List.isEmpty_iff, List.eq_nil_iff_forall_not_mem]
    simp only [mem_entries_iff_of_represents h, not_exists, Option.eq_none_iff_forall_ne_some]
    exact forall_comm
  mem_entries_iff := mem_entries_iff_of_represents h
  nodup := (nodup_map_descriptor table.increasing).of_map _
  increasing := table.increasing
  sortByDescriptor_eq values hnodup hvalues := by
    have hdistinct : (values.map TypeInfo.descriptor).Nodup :=
      nodup_map_descriptor_of_keyed h.keyed hnodup fun info hinfo ↦ (hvalues info).1 hinfo
    refine eq_of_mem_iff (increasing_sortByDescriptor hdistinct) table.increasing fun info ↦ ?_
    rw [sortByDescriptor, List.mem_mergeSort, hvalues, mem_entries_iff_of_represents h]

/-- After any operations on two tables that start out empty, the answers are those given on maps,
and each table is the same finite map as what is stored beside it. Tables answer alike exactly when
they list the same entries in the same order, however they came about. -/
theorem run_refines (operations : List Operation) :
    let tables := run step ⟨empty, empty⟩ operations
    let maps := run storedStep ⟨Stored.empty, Stored.empty⟩ operations
    tables.1 = maps.1 ∧ Refines tables.2.current maps.2.current ∧
      Refines tables.2.other maps.2.other ∧
      ∀ operations' : List Operation,
        let tables' := run step ⟨empty, empty⟩ operations'
        (∀ descriptor, tables'.2.current.get? descriptor = tables.2.current.get? descriptor) ↔
          tables'.2.current.entries = tables.2.current.entries := by
  have hstart : BothRepresent ⟨empty, empty⟩ ⟨Stored.empty, Stored.empty⟩ :=
    ⟨represents_empty, represents_empty⟩
  obtain ⟨hanswers, hcurrent, hother⟩ := run_represents hstart operations
  refine ⟨hanswers, refines_of_represents hcurrent, refines_of_represents hother, ?_⟩
  intro operations' tables'
  constructor
  · exact fun h ↦ congrArg TypeTable.entries (ext_get? h)
  · intro h descriptor
    rw [get?, get?, h]

end JvmSchema.TableRuns
