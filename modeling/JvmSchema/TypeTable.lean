import JvmSchema.Classification

/-!
# Type tables

A `TypeTable` holds at most one description per descriptor, in increasing order of descriptors. The
order is part of the type, so a table is determined by its entries (`ext_get?`), and the entry for a
descriptor is found by it alone (`get?_eq_some_iff`). A later entry takes the place of an earlier
one for the same descriptor (`get?_insert`), and merging prefers the table merged in
(`get?_extend`).
-/

set_option autoImplicit false
set_option relaxedAutoImplicit false

namespace JvmSchema

namespace TypeInfo

/-- Descriptions in strictly increasing order of descriptors. -/
abbrev Increasing (entries : List TypeInfo) : Prop :=
  entries.Pairwise fun first second ↦ first.descriptor < second.descriptor

/-- Puts a description in its place, and gives the one that was there before. -/
def putIn (info : TypeInfo) : List TypeInfo → Option TypeInfo × List TypeInfo
  | [] => (none, [info])
  | entry :: rest =>
    if info.descriptor < entry.descriptor then (none, info :: entry :: rest)
    else if info.descriptor = entry.descriptor then (some entry, info :: rest)
    else ((info.putIn rest).1, entry :: (info.putIn rest).2)

theorem mem_putIn {info other : TypeInfo} {entries : List TypeInfo}
    (h : other ∈ (info.putIn entries).2) : other = info ∨ other ∈ entries := by
  induction entries with
  | nil => simpa [putIn] using h
  | cons entry rest ih =>
    simp only [putIn] at h
    split at h
    · simpa using h
    · split at h
      · simp only [List.mem_cons] at h ⊢
        exact h.imp id .inr
      · simp only [List.mem_cons] at h ⊢
        rcases h with h | h
        · exact .inr (.inl h)
        · exact (ih h).imp id .inr

theorem increasing_putIn {info : TypeInfo} {entries : List TypeInfo} (h : Increasing entries) :
    Increasing (info.putIn entries).2 := by
  induction entries with
  | nil => simp [putIn, Increasing]
  | cons entry rest ih =>
    obtain ⟨hentry, hrest⟩ := List.pairwise_cons.1 h
    simp only [putIn]
    split
    next hlt =>
      refine List.pairwise_cons.2 ⟨fun other hother ↦ ?_, h⟩
      rcases List.mem_cons.1 hother with rfl | hother
      · exact hlt
      · exact Descriptor.lt_trans hlt (hentry other hother)
    next hlt =>
      split
      next heq => exact List.pairwise_cons.2 ⟨fun other hother ↦ heq ▸ hentry other hother, hrest⟩
      next hne =>
        refine List.pairwise_cons.2 ⟨fun other hother ↦ ?_, ih hrest⟩
        rcases mem_putIn hother with rfl | hother
        · rcases Descriptor.lt_trichotomy other.descriptor entry.descriptor with h' | h' | h'
          · exact absurd h' hlt
          · exact absurd h' hne
          · exact h'
        · exact hentry other hother

end TypeInfo

/-- At most one description per descriptor, in increasing order. -/
structure TypeTable where
  entries : List TypeInfo
  increasing : TypeInfo.Increasing entries

namespace TypeTable

/-- The table without entries. -/
def empty : TypeTable := ⟨[], .nil⟩

/-- Adds a description, and gives the one that it replaces. -/
def exchange (table : TypeTable) (info : TypeInfo) : Option TypeInfo × TypeTable :=
  ((info.putIn table.entries).1,
    ⟨(info.putIn table.entries).2, TypeInfo.increasing_putIn table.increasing⟩)

/-- Adds a description in place of any earlier one for the same descriptor. -/
def insert (table : TypeTable) (info : TypeInfo) : TypeTable :=
  (table.exchange info).2

/-- Adds descriptions one after the other. -/
def insertAll (table : TypeTable) (infos : List TypeInfo) : TypeTable :=
  infos.foldl insert table

/-- The description of the type with the given descriptor. -/
def get? (table : TypeTable) (descriptor : Descriptor) : Option TypeInfo :=
  table.entries.find? fun info ↦ info.descriptor = descriptor

/-- Whether the table describes the given descriptor. -/
def contains (table : TypeTable) (descriptor : Descriptor) : Bool :=
  (table.get? descriptor).isSome

/-- The number of entries. -/
def size (table : TypeTable) : Nat :=
  table.entries.length

def isEmpty (table : TypeTable) : Bool :=
  table.entries.isEmpty

/-- Merges another table into this one; its entries win. -/
def extend (table other : TypeTable) : TypeTable :=
  table.insertAll other.entries

/-- Descriptions of distinct types as a table, or the first descriptor that comes up again. -/
def ofDistinct (infos : List TypeInfo) : Except Descriptor TypeTable :=
  infos.foldlM (fun table info ↦
    match table.exchange info with
    | (none, larger) => .ok larger
    | (some _, _) => .error info.descriptor) empty

/-- The resolver that looks descriptors up in the table. -/
def resolver {m : Type → Type} [Monad m] (table : TypeTable) : Resolver m where
  resolve descriptor := pure ((table.get? descriptor).map TypeInfo.shape)

/-- Classifies each descriptor against the table. -/
def classifyAll (table : TypeTable) (known : Identities) (descriptors : List Descriptor) :
    List (Descriptor × Verdict) :=
  Id.run (table.resolver.classifyAll known descriptors)

/-! ### Entries -/

theorem get?_eq_some_iff {table : TypeTable} {descriptor : Descriptor} {info : TypeInfo} :
    table.get? descriptor = some info ↔ info ∈ table.entries ∧ info.descriptor = descriptor := by
  obtain ⟨entries, hincreasing⟩ := table
  simp only [get?]
  induction entries with
  | nil => simp
  | cons entry rest ih =>
    obtain ⟨hentry, hrest⟩ := List.pairwise_cons.1 hincreasing
    rw [List.find?_cons]
    split
    next heq =>
      simp only [decide_eq_true_eq] at heq
      constructor
      · intro h
        cases h
        exact ⟨List.mem_cons_self, heq⟩
      · rintro ⟨hmem, hdescriptor⟩
        rcases List.mem_cons.1 hmem with rfl | hmem
        · rfl
        · exact absurd (heq.trans hdescriptor.symm) (Descriptor.ne_of_lt (hentry info hmem))
    next hne =>
      simp only [decide_eq_false_iff_not] at hne
      rw [ih hrest]
      constructor
      · exact fun h ↦ ⟨List.mem_cons_of_mem _ h.1, h.2⟩
      · rintro ⟨hmem, hdescriptor⟩
        rcases List.mem_cons.1 hmem with rfl | hmem
        · exact absurd hdescriptor hne
        · exact ⟨hmem, hdescriptor⟩

@[simp] theorem get?_empty (descriptor : Descriptor) : empty.get? descriptor = none := rfl

/-! ### Insertion -/

theorem find?_putIn (info : TypeInfo) (entries : List TypeInfo) (descriptor : Descriptor)
    (h : TypeInfo.Increasing entries) :
    (info.putIn entries).2.find? (fun other ↦ other.descriptor = descriptor) =
      if info.descriptor = descriptor then some info
      else entries.find? fun other ↦ other.descriptor = descriptor := by
  induction entries with
  | nil => by_cases hd : info.descriptor = descriptor <;> simp [TypeInfo.putIn, hd]
  | cons entry rest ih =>
    obtain ⟨hentry, hrest⟩ := List.pairwise_cons.1 h
    simp only [TypeInfo.putIn]
    split
    · by_cases hd : info.descriptor = descriptor <;> simp [hd]
    · split
      next heq => by_cases hd : info.descriptor = descriptor <;> simp [← heq, hd]
      next hne =>
        rw [List.find?_cons, List.find?_cons, ih hrest]
        by_cases hd : info.descriptor = descriptor
        · subst hd
          simp [Ne.symm hne]
        · simp [hd]

theorem get?_insert (table : TypeTable) (info : TypeInfo) (descriptor : Descriptor) :
    (table.insert info).get? descriptor =
      if info.descriptor = descriptor then some info else table.get? descriptor :=
  find?_putIn info table.entries descriptor table.increasing

theorem find?_eq_none_of_lt {entries : List TypeInfo} {descriptor : Descriptor}
    (h : ∀ info ∈ entries, descriptor < info.descriptor) :
    entries.find? (fun other ↦ other.descriptor = descriptor) = none := by
  rw [List.find?_eq_none]
  intro info hinfo hdescriptor
  exact Descriptor.ne_of_lt (h info hinfo) (of_decide_eq_true hdescriptor).symm

theorem fst_exchange (table : TypeTable) (info : TypeInfo) :
    (table.exchange info).1 = table.get? info.descriptor := by
  obtain ⟨entries, hincreasing⟩ := table
  simp only [exchange, get?]
  induction entries with
  | nil => rfl
  | cons entry rest ih =>
    obtain ⟨hentry, hrest⟩ := List.pairwise_cons.1 hincreasing
    simp only [TypeInfo.putIn]
    split
    next hlt =>
      refine (find?_eq_none_of_lt fun other hother ↦ ?_).symm
      rcases List.mem_cons.1 hother with rfl | hother
      · exact hlt
      · exact Descriptor.lt_trans hlt (hentry other hother)
    next hlt =>
      split
      next heq => simp [heq]
      next hne => simp [ih hrest, Ne.symm hne]

/-! ### Extensionality -/

theorem eq_of_mem_iff {first second : List TypeInfo} (hfirst : TypeInfo.Increasing first)
    (hsecond : TypeInfo.Increasing second) (h : ∀ info, info ∈ first ↔ info ∈ second) :
    first = second := by
  induction first generalizing second with
  | nil =>
    cases second with
    | nil => rfl
    | cons entry rest => exact absurd ((h entry).2 List.mem_cons_self) List.not_mem_nil
  | cons entry rest ih =>
    cases second with
    | nil => exact absurd ((h entry).1 List.mem_cons_self) List.not_mem_nil
    | cons entry' rest' =>
      obtain ⟨hentry, hrest⟩ := List.pairwise_cons.1 hfirst
      obtain ⟨hentry', hrest'⟩ := List.pairwise_cons.1 hsecond
      have heq : entry = entry' := by
        rcases List.mem_cons.1 ((h entry).1 List.mem_cons_self) with heq | hmem
        · exact heq
        rcases List.mem_cons.1 ((h entry').2 List.mem_cons_self) with heq | hmem'
        · exact heq.symm
        exact absurd (hentry entry' hmem') (Descriptor.lt_asymm (hentry' entry hmem))
      subst heq
      refine congrArg (entry :: ·) (ih hrest hrest' fun info ↦ ?_)
      have hinfo := h info
      simp only [List.mem_cons] at hinfo
      constructor
      · intro hmem
        rcases hinfo.1 (.inr hmem) with rfl | hmem'
        · exact absurd (hentry info hmem) (Descriptor.lt_irrefl _)
        · exact hmem'
      · intro hmem
        rcases hinfo.2 (.inr hmem) with rfl | hmem'
        · exact absurd (hentry' info hmem) (Descriptor.lt_irrefl _)
        · exact hmem'

/-- Tables that answer alike are equal. -/
theorem ext_get? {first second : TypeTable}
    (h : ∀ descriptor, first.get? descriptor = second.get? descriptor) : first = second := by
  have hentries : first.entries = second.entries :=
    eq_of_mem_iff first.increasing second.increasing fun info ↦ by
      have hfirst : first.get? info.descriptor = some info ↔ _ := get?_eq_some_iff
      have hsecond : second.get? info.descriptor = some info ↔ _ := get?_eq_some_iff
      rw [h] at hfirst
      simpa using hfirst.symm.trans hsecond
  cases first
  cases second
  congr

/-! ### Merging -/

theorem get?_insertAll_of_notMem {table : TypeTable} {infos : List TypeInfo}
    {descriptor : Descriptor} (h : ∀ info ∈ infos, info.descriptor ≠ descriptor) :
    (table.insertAll infos).get? descriptor = table.get? descriptor := by
  induction infos generalizing table with
  | nil => rfl
  | cons info rest ih =>
    rw [insertAll, List.foldl_cons, ← insertAll, ih fun other hother ↦
      h other (List.mem_cons_of_mem _ hother), get?_insert, if_neg (h info List.mem_cons_self)]

theorem get?_insertAll_of_mem {table : TypeTable} {infos : List TypeInfo} {info : TypeInfo}
    (h : TypeInfo.Increasing infos) (hmem : info ∈ infos) :
    (table.insertAll infos).get? info.descriptor = some info := by
  induction infos generalizing table with
  | nil => exact absurd hmem List.not_mem_nil
  | cons entry rest ih =>
    obtain ⟨hentry, hrest⟩ := List.pairwise_cons.1 h
    rw [insertAll, List.foldl_cons, ← insertAll]
    rcases List.mem_cons.1 hmem with rfl | hmem
    · rw [get?_insertAll_of_notMem fun other hother ↦
        (Descriptor.ne_of_lt (hentry other hother)).symm, get?_insert, if_pos rfl]
    · exact ih hrest hmem

theorem get?_extend (table other : TypeTable) (descriptor : Descriptor) :
    (table.extend other).get? descriptor =
      (other.get? descriptor).or (table.get? descriptor) := by
  cases hother : other.get? descriptor with
  | some info =>
    obtain ⟨hmem, rfl⟩ := get?_eq_some_iff.1 hother
    exact get?_insertAll_of_mem other.increasing hmem
  | none =>
    refine get?_insertAll_of_notMem fun info hmem hdescriptor ↦ ?_
    rw [get?_eq_some_iff.2 ⟨hmem, hdescriptor⟩] at hother
    exact Option.some_ne_none _ hother

end TypeTable

end JvmSchema
