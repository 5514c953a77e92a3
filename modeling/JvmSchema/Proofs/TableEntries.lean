import JvmSchema.TypeTable
import Mathlib.Data.Finset.Card

/-!
# What a table lists

The descriptors of a table form a finite set (`descriptors`), as large as the table
(`card_descriptors`). Merging unites these sets (`descriptors_extend`). Of several descriptions
added one after the other, the last one for a descriptor stays (`get?_insertAll`); where the
descriptions are of distinct types they make a table that holds exactly them
(`ofDistinct_eq_ok_iff`, `mem_entries_insertAll`).
-/

set_option autoImplicit false
set_option relaxedAutoImplicit false

namespace JvmSchema.TypeTable

/-! ### The descriptors of a table -/

/-- The descriptors that a table lists. -/
def descriptors (table : TypeTable) : Finset Descriptor :=
  (table.entries.map TypeInfo.descriptor).toFinset

theorem mem_entries_iff {table : TypeTable} {info : TypeInfo} :
    info ∈ table.entries ↔ table.get? info.descriptor = some info := by
  simp [get?_eq_some_iff]

theorem nodup_map_descriptor {entries : List TypeInfo} (h : TypeInfo.Increasing entries) :
    (entries.map TypeInfo.descriptor).Nodup :=
  List.pairwise_map.2 (h.imp Descriptor.ne_of_lt)

@[simp] theorem mem_descriptors {table : TypeTable} {descriptor : Descriptor} :
    descriptor ∈ table.descriptors ↔ (table.get? descriptor).isSome := by
  simp only [descriptors, List.mem_toFinset, List.mem_map, Option.isSome_iff_exists,
    get?_eq_some_iff]

@[simp] theorem card_descriptors (table : TypeTable) : table.descriptors.card = table.size := by
  rw [descriptors, List.toFinset_card_of_nodup (nodup_map_descriptor table.increasing),
    List.length_map, size]

@[simp] theorem descriptors_extend (table other : TypeTable) :
    (table.extend other).descriptors = table.descriptors ∪ other.descriptors := by
  ext descriptor
  simp [get?_extend, Option.isSome_or, or_comm]

/-! ### Several descriptions -/

@[simp] theorem insertAll_nil (table : TypeTable) : table.insertAll [] = table := rfl

@[simp] theorem insertAll_cons (table : TypeTable) (info : TypeInfo) (rest : List TypeInfo) :
    table.insertAll (info :: rest) = (table.insert info).insertAll rest := rfl

/-- The last of the descriptions for a descriptor stays. -/
theorem get?_insertAll (table : TypeTable) (infos : List TypeInfo) (descriptor : Descriptor) :
    (table.insertAll infos).get? descriptor =
      (infos.reverse.find? fun info ↦ info.descriptor = descriptor).or
        (table.get? descriptor) := by
  induction infos generalizing table with
  | nil => rfl
  | cons info rest ih =>
    rw [insertAll_cons, ih, get?_insert, List.reverse_cons, List.find?_append, Option.or_assoc]
    congr 1
    by_cases h : info.descriptor = descriptor <;> simp [h]

/-- Each of several distinct descriptions is found by its descriptor. -/
theorem find?_eq_some_iff_of_nodup {infos : List TypeInfo} {info : TypeInfo}
    {descriptor : Descriptor} (h : (infos.map TypeInfo.descriptor).Nodup) :
    (infos.find? fun other ↦ other.descriptor = descriptor) = some info ↔
      info ∈ infos ∧ info.descriptor = descriptor := by
  induction infos with
  | nil => simp
  | cons first rest ih =>
    rw [List.map_cons, List.nodup_cons] at h
    obtain ⟨hfirst, hrest⟩ := h
    have hnew (other : TypeInfo) (hother : other ∈ rest) : other.descriptor ≠ first.descriptor :=
      fun heq ↦ hfirst (heq ▸ List.mem_map_of_mem hother)
    by_cases hdescriptor : first.descriptor = descriptor
    · rw [List.find?_cons_of_pos (by simpa using hdescriptor)]
      constructor
      · rintro ⟨⟩
        exact ⟨List.mem_cons_self, hdescriptor⟩
      · rintro ⟨hmem, rfl⟩
        rcases List.mem_cons.1 hmem with rfl | hmem
        · rfl
        · exact absurd hdescriptor.symm (hnew info hmem)
    · rw [List.find?_cons_of_neg (by simpa using hdescriptor), ih hrest, List.mem_cons]
      refine and_congr_left fun heq ↦ ?_
      have hne : info ≠ first := fun h ↦ hdescriptor (h ▸ heq)
      simp [hne]

theorem get?_insertAll_eq_some_iff {infos : List TypeInfo} {info : TypeInfo}
    {descriptor : Descriptor} (h : (infos.map TypeInfo.descriptor).Nodup) :
    (empty.insertAll infos).get? descriptor = some info ↔
      info ∈ infos ∧ info.descriptor = descriptor := by
  have hreverse : (infos.reverse.map TypeInfo.descriptor).Nodup := by
    rw [List.map_reverse]
    exact List.nodup_reverse.2 h
  rw [get?_insertAll, get?_empty, Option.or_none, find?_eq_some_iff_of_nodup hreverse,
    List.mem_reverse]

theorem mem_entries_insertAll {infos : List TypeInfo} {info : TypeInfo}
    (h : (infos.map TypeInfo.descriptor).Nodup) :
    info ∈ (empty.insertAll infos).entries ↔ info ∈ infos := by
  rw [mem_entries_iff, get?_insertAll_eq_some_iff h, and_iff_left rfl]

theorem descriptors_insertAll {infos : List TypeInfo}
    (h : (infos.map TypeInfo.descriptor).Nodup) :
    (empty.insertAll infos).descriptors = (infos.map TypeInfo.descriptor).toFinset := by
  ext descriptor
  simp only [descriptors, List.mem_toFinset, List.mem_map, mem_entries_insertAll h]

theorem size_insertAll {infos : List TypeInfo} (h : (infos.map TypeInfo.descriptor).Nodup) :
    (empty.insertAll infos).size = infos.length := by
  rw [← card_descriptors, descriptors_insertAll h, List.toFinset_card_of_nodup h, List.length_map]

/-! ### Descriptions of distinct types -/

/-- Adds a description unless there is one for its descriptor already. -/
def addNew (table : TypeTable) (info : TypeInfo) : Except Descriptor TypeTable :=
  match table.exchange info with
  | (none, larger) => .ok larger
  | (some _, _) => .error info.descriptor

theorem ofDistinct_eq_foldlM (infos : List TypeInfo) :
    ofDistinct infos = infos.foldlM addNew empty := rfl

theorem addNew_of_none {table : TypeTable} {info : TypeInfo}
    (h : table.get? info.descriptor = none) : table.addNew info = .ok (table.insert info) := by
  rw [← fst_exchange] at h
  rw [addNew, insert]
  generalize table.exchange info = exchanged at h ⊢
  obtain ⟨replaced, larger⟩ := exchanged
  subst h
  rfl

theorem addNew_of_some {table : TypeTable} {info previous : TypeInfo}
    (h : table.get? info.descriptor = some previous) :
    table.addNew info = .error info.descriptor := by
  rw [← fst_exchange] at h
  rw [addNew]
  generalize table.exchange info = exchanged at h ⊢
  obtain ⟨replaced, larger⟩ := exchanged
  subst h
  rfl

theorem foldlM_addNew_eq_ok_iff {table result : TypeTable} {infos : List TypeInfo} :
    infos.foldlM addNew table = .ok result ↔
      (infos.map TypeInfo.descriptor).Nodup ∧
        (∀ info ∈ infos, table.get? info.descriptor = none) ∧ table.insertAll infos = result := by
  induction infos generalizing table with
  | nil => simp [pure, Except.pure]
  | cons info rest ih =>
    rw [List.foldlM_cons]
    cases hget : table.get? info.descriptor with
    | some previous =>
      rw [addNew_of_some hget]
      simp [bind, Except.bind, hget]
    | none =>
      rw [addNew_of_none hget]
      change rest.foldlM addNew (table.insert info) = .ok result ↔ _
      rw [ih, insertAll_cons, List.map_cons, List.nodup_cons, List.forall_mem_cons]
      -- In the larger table the rest must avoid the new descriptor as well as the old ones.
      have hrest : (∀ other ∈ rest, (table.insert info).get? other.descriptor = none) ↔
          info.descriptor ∉ rest.map TypeInfo.descriptor ∧
            ∀ other ∈ rest, table.get? other.descriptor = none := by
        simp only [get?_insert, List.mem_map, not_exists, not_and, ← forall_and]
        refine forall_congr' fun other ↦ ?_
        by_cases heq : info.descriptor = other.descriptor <;> simp [heq, eq_comm]
      rw [hrest]
      tauto

/-- Descriptions make a table exactly when their types are distinct; it holds all of them. -/
theorem ofDistinct_eq_ok_iff {infos : List TypeInfo} {table : TypeTable} :
    ofDistinct infos = .ok table ↔
      (infos.map TypeInfo.descriptor).Nodup ∧ empty.insertAll infos = table := by
  rw [ofDistinct_eq_foldlM, foldlM_addNew_eq_ok_iff]
  simp

end JvmSchema.TypeTable
