import JvmSchema.Proofs.TableEntries
import Mathlib.Order.Defs.Unbundled

/-!
# The order of descriptors

Descriptors are compared by the bytes of their UTF-8 form, and a table lists its types in that
order. The order is the one of the code points, character by character (`lt_iff_codePoints`), as the
form of a character with a smaller code point comes first whatever follows it
(`precedes_utf8EncodeChar`). A character with a shorter form has a smaller first byte; characters
with forms of one length differ first in the six bits of the highest place where their code points
differ.

The order is a strict total one, so a list of distinct descriptors can be sorted in one way only
(`order_by_codePoints`).
-/

set_option autoImplicit false
set_option relaxedAutoImplicit false

namespace JvmSchema.Descriptor

/-! ### Characters -/

/-- The one list of bytes comes before the other whatever follows them. -/
def Precedes (first second : List UInt8) : Prop :=
  ∀ more further, first ++ more < second ++ further

theorem precedes_cons_of_lt {byte other : UInt8} (h : byte < other) (first second : List UInt8) :
    Precedes (byte :: first) (other :: second) :=
  fun _ _ ↦ List.cons_lt_cons_iff.2 (.inl h)

theorem Precedes.append {first second : List UInt8} (h : Precedes first second)
    (more further : List UInt8) : Precedes (first ++ more) (second ++ further) := by
  intro rest rest'
  rw [List.append_assoc, List.append_assoc]
  exact h _ _

theorem precedes_append_left {first second : List UInt8} (h : Precedes first second)
    (start : List UInt8) : Precedes (start ++ first) (start ++ second) := by
  intro more further
  rw [List.append_assoc, List.append_assoc]
  induction start with
  | nil => exact h more further
  | cons byte rest ih => exact List.cons_lt_cons_iff.2 (.inr ⟨rfl, ih⟩)

/-- A code point in `count + 1` bytes: the last `count` of them hold six bits each, the first one
what is left, above a mark. -/
def spread (mark : Nat) : Nat → Nat → List UInt8
  | 0, code => [UInt8.ofNat (code + mark)]
  | count + 1, code => spread mark count (code / 64) ++ [UInt8.ofNat (code % 64 + 128)]

/-- The first byte of a code point in `count + 1` bytes. -/
def firstByte (mark count code : Nat) : Nat :=
  code / Nat.pow 64 count + mark

theorem firstByte_succ (mark count code : Nat) :
    firstByte mark (count + 1) code = firstByte mark count (code / 64) := by
  have hpow : Nat.pow 64 (count + 1) = 64 * Nat.pow 64 count := Nat.mul_comm _ _
  rw [firstByte, firstByte, hpow, Nat.div_div_eq_div_mul]

theorem exists_spread_eq_cons (mark count code : Nat) :
    ∃ rest, spread mark count code = UInt8.ofNat (firstByte mark count code) :: rest := by
  induction count generalizing code with
  | zero => exact ⟨[], by simp [spread, firstByte]⟩
  | succ count ih =>
    obtain ⟨rest, hrest⟩ := ih (code / 64)
    exact ⟨_, by rw [spread, hrest, firstByte_succ, List.cons_append]⟩

theorem ofNat_lt_ofNat {code other : Nat} (h : code < other) (hother : other < UInt8.size) :
    UInt8.ofNat code < UInt8.ofNat other :=
  (UInt8.ofNat_lt_iff_lt (Nat.lt_trans h hother) hother).2 h

theorem precedes_spread {mark count code other : Nat} (h : code < other)
    (hbyte : firstByte mark count other < UInt8.size) :
    Precedes (spread mark count code) (spread mark count other) := by
  induction count generalizing code other with
  | zero =>
    have hother : other + mark < UInt8.size := by simpa [firstByte] using hbyte
    exact precedes_cons_of_lt (ofNat_lt_ofNat (Nat.add_lt_add_right h mark) hother) [] []
  | succ count ih =>
    rw [firstByte_succ] at hbyte
    rw [spread, spread]
    rcases Nat.lt_or_eq_of_le (Nat.div_le_div_right (c := 64) (Nat.le_of_lt h)) with hlt | heq
    · exact (ih hlt hbyte).append _ _
    · -- The earlier bytes are the same, so the last one decides.
      have hlast : code % 64 + 128 < other % 64 + 128 := by omega
      have hsize : other % 64 + 128 < UInt8.size := by
        have hmod : other % 64 < 64 := Nat.mod_lt _ (by decide)
        rw [UInt8.size]
        omega
      rw [heq]
      exact precedes_append_left (precedes_cons_of_lt (ofNat_lt_ofNat hlast hsize) [] []) _

/-- The number of bytes after the first one. -/
def furtherBytes (code : Nat) : Nat :=
  if code ≤ 0x7f then 0 else if code ≤ 0x7ff then 1 else if code ≤ 0xffff then 2 else 3

/-- What the first byte shows above the bits of the code point. -/
def markOf : Nat → Nat
  | 0 => 0
  | 1 => 0xc0
  | 2 => 0xe0
  | _ => 0xf0

/-- The first byte of the UTF-8 form of a code point. -/
def leadingByte (code : Nat) : Nat :=
  firstByte (markOf (furtherBytes code)) (furtherBytes code) code

theorem toNat_lt_of_char (char : Char) : char.toNat < 0x110000 := by
  have hvalid : char.toNat.isValidChar := char.valid
  unfold Nat.isValidChar at hvalid
  omega

theorem utf8EncodeChar_eq (char : Char) : String.utf8EncodeChar char =
    spread (markOf (furtherBytes char.toNat)) (furtherBytes char.toNat) char.toNat := by
  have hlt := toNat_lt_of_char char
  have hcode : char.val.toNat = char.toNat := rfl
  rw [String.utf8EncodeChar, furtherBytes]
  simp only [hcode]
  generalize char.toNat = code at hlt
  split
  · rfl
  split
  · have hfirst : code / 64 % 32 = code / 64 := by omega
    rw [hfirst]
    rfl
  split
  · have hfirst : code / 4096 % 16 = code / 64 / 64 := by omega
    rw [hfirst]
    rfl
  · have hfirst : code / 262144 % 8 = code / 64 / 64 / 64 := by omega
    have hsecond : code / 4096 % 64 = code / 64 / 64 % 64 := by omega
    rw [hfirst, hsecond]
    rfl

theorem leadingByte_eq (code : Nat) : leadingByte code =
    if code ≤ 0x7f then code
    else if code ≤ 0x7ff then code / 0x40 + 0xc0
    else if code ≤ 0xffff then code / 0x1000 + 0xe0
    else code / 0x40000 + 0xf0 := by
  rw [leadingByte, furtherBytes]
  split
  · simp [firstByte, markOf]
  split
  · rfl
  split
  · rfl
  · rfl

theorem leadingByte_lt_size (char : Char) : leadingByte char.toNat < UInt8.size := by
  have hlt := toNat_lt_of_char char
  rw [leadingByte_eq, UInt8.size]
  split_ifs <;> omega

/-- Of two code points with forms of different lengths the smaller one has the smaller first
byte. -/
theorem leadingByte_lt_leadingByte {code other : Nat} (h : code < other)
    (hlength : furtherBytes code ≠ furtherBytes other) :
    leadingByte code < leadingByte other := by
  rw [leadingByte_eq, leadingByte_eq]
  rw [furtherBytes, furtherBytes] at hlength
  split_ifs at hlength ⊢ <;> omega

theorem precedes_utf8EncodeChar {first second : Char} (h : first.toNat < second.toNat) :
    Precedes (String.utf8EncodeChar first) (String.utf8EncodeChar second) := by
  have hbyte := leadingByte_lt_size second
  rw [utf8EncodeChar_eq, utf8EncodeChar_eq]
  by_cases hlength : furtherBytes first.toNat = furtherBytes second.toNat
  · rw [hlength]
    exact precedes_spread h hbyte
  · obtain ⟨rest, hfirst⟩ := exists_spread_eq_cons (markOf (furtherBytes first.toNat))
      (furtherBytes first.toNat) first.toNat
    obtain ⟨rest', hsecond⟩ := exists_spread_eq_cons (markOf (furtherBytes second.toNat))
      (furtherBytes second.toNat) second.toNat
    rw [hfirst, hsecond]
    exact precedes_cons_of_lt (ofNat_lt_ofNat (leadingByte_lt_leadingByte h hlength) hbyte) _ _

/-! ### Texts -/

/-- The bytes of a descriptor are those of its characters, one after the other. -/
theorem bytes_eq_flatMap (descriptor : Descriptor) :
    descriptor.bytes = descriptor.text.toList.flatMap String.utf8EncodeChar := by
  rw [bytes, ← String.utf8Encode_toList, List.utf8Encode, List.data_toByteArray]

/-- The code points of a descriptor. -/
def codePoints (descriptor : Descriptor) : List Nat :=
  descriptor.text.toList.map Char.toNat

theorem codePoints_injective {first second : Descriptor}
    (h : first.codePoints = second.codePoints) : first = second := by
  have htext : first.text = second.text :=
    String.toList_inj.1 (List.map_injective_iff.2 (fun _ _ ↦ Char.toNat_inj.1) h)
  cases first
  cases second
  exact congrArg Descriptor.mk htext

theorem flatMap_utf8EncodeChar_lt {first second : List Char}
    (h : first.map Char.toNat < second.map Char.toNat) :
    first.flatMap String.utf8EncodeChar < second.flatMap String.utf8EncodeChar := by
  induction first generalizing second with
  | nil =>
    cases second with
    | nil => exact absurd h (List.lt_irrefl _)
    | cons char rest =>
      obtain ⟨byte, bytes, hbytes⟩ :=
        List.exists_cons_of_ne_nil (String.utf8EncodeChar_ne_nil (c := char))
      rw [List.flatMap_cons, hbytes]
      exact List.nil_lt_cons _ _
  | cons char rest ih =>
    cases second with
    | nil => exact absurd h (List.not_lt_nil _)
    | cons other others =>
      rw [List.map_cons, List.map_cons, List.cons_lt_cons_iff] at h
      rw [List.flatMap_cons, List.flatMap_cons]
      rcases h with hlt | ⟨heq, hlt⟩
      · exact precedes_utf8EncodeChar hlt _ _
      · rw [Char.toNat_inj.1 heq]
        exact List.append_left_lt (ih hlt)

theorem lt_of_codePoints_lt {first second : Descriptor} (h : first.codePoints < second.codePoints) :
    first < second := by
  change first.bytes < second.bytes
  rw [bytes_eq_flatMap, bytes_eq_flatMap]
  exact flatMap_utf8EncodeChar_lt h

/-- Descriptors are in the order of their code points. -/
theorem lt_iff_codePoints {first second : Descriptor} :
    first < second ↔ first.codePoints < second.codePoints := by
  refine ⟨fun h ↦ ?_, lt_of_codePoints_lt⟩
  have htrichotomy : first.codePoints < second.codePoints ∨
      first.codePoints = second.codePoints ∨ second.codePoints < first.codePoints :=
    Std.Trichotomous.rel_or_eq_or_rel_swap
  rcases htrichotomy with hlt | heq | hgt
  · exact hlt
  · exact absurd (codePoints_injective heq) (ne_of_lt h)
  · exact absurd (lt_of_codePoints_lt hgt) (lt_asymm h)

/-! ### Sorting -/

instance : IsStrictTotalOrder Descriptor (· < ·) where
  trichotomous first second h h' := by
    rcases lt_trichotomy first second with hlt | heq | hgt
    · exact absurd hlt h
    · exact heq
    · exact absurd hgt h'
  irrefl := lt_irrefl
  trans _ _ _ := lt_trans

theorem not_lt_trans {first second third : Descriptor} (h : ¬ second < first)
    (h' : ¬ third < second) : ¬ third < first := by
  intro hlt
  rcases lt_trichotomy second third with hsecond | rfl | hsecond
  · exact h (lt_trans hsecond hlt)
  · exact h hlt
  · exact h' hsecond

/-- Items with distinct descriptors are sorted into increasing order. -/
theorem pairwise_mergeSort {α : Type} (key : α → Descriptor) {items : List α}
    (h : (items.map key).Nodup) :
    (items.mergeSort fun first second ↦ ¬ key second < key first).Pairwise fun first second ↦
      key first < key second := by
  have hsorted := @List.pairwise_mergeSort α
    (fun first second ↦ decide (¬ key second < key first))
    (fun first second third h h' ↦ decide_eq_true
      (not_lt_trans (of_decide_eq_true h) (of_decide_eq_true h')))
    (fun first second ↦ by simpa [imp_iff_not_or] using fun h ↦ lt_asymm h) items
  have hperm := List.mergeSort_perm items fun first second ↦ ¬ key second < key first
  have hnodup := List.pairwise_map.1 ((hperm.map key).nodup_iff.2 h)
  refine (hsorted.and hnodup).imp fun {first second} hpair ↦ ?_
  rcases lt_trichotomy (key first) (key second) with hlt | heq | hgt
  · exact hlt
  · exact absurd heq hpair.2
  · exact absurd hgt (of_decide_eq_true hpair.1)

theorem perm_sort (descriptors : List Descriptor) : (sort descriptors).Perm descriptors :=
  List.mergeSort_perm descriptors _

theorem pairwise_sort {descriptors : List Descriptor} (h : descriptors.Nodup) :
    (sort descriptors).Pairwise (· < ·) :=
  pairwise_mergeSort id (by rwa [List.map_id])

/-- There is one way to sort distinct descriptors. -/
theorem eq_sort_iff {descriptors sorted : List Descriptor} (h : descriptors.Nodup) :
    sorted = sort descriptors ↔ sorted.Perm descriptors ∧ sorted.Pairwise (· < ·) := by
  constructor
  · rintro rfl
    exact ⟨perm_sort descriptors, pairwise_sort h⟩
  · rintro ⟨hperm, hpairwise⟩
    exact (hperm.trans (perm_sort descriptors).symm).eq_of_pairwise
      (fun _ _ _ _ hlt hgt ↦ absurd hgt (lt_asymm hlt)) hpairwise (pairwise_sort h)

/-- A table lists its descriptors sorted. -/
theorem map_descriptor_entries_eq_sort {table : TypeTable} {descriptors : List Descriptor}
    (hnodup : descriptors.Nodup)
    (h : ∀ descriptor, descriptor ∈ descriptors ↔ table.contains descriptor) :
    table.entries.map TypeInfo.descriptor = sort descriptors := by
  refine (eq_sort_iff hnodup).2 ⟨?_, List.pairwise_map.2 table.increasing⟩
  refine (List.perm_ext_iff_of_nodup
    (TypeTable.nodup_map_descriptor table.increasing) hnodup).2 fun descriptor ↦ ?_
  rw [h, TypeTable.contains, ← TypeTable.mem_descriptors, TypeTable.descriptors, List.mem_toFinset]

/-- Descriptors are compared by the bytes of their UTF-8 form, and so by their code points. The
order is a strict total one in which equal means equal as texts. Distinct descriptors can therefore
be sorted in one way only, and a table lists its types so. -/
theorem order_by_codePoints :
    (∀ first second : Descriptor, first < second ↔
      first.text.toList.flatMap String.utf8EncodeChar <
        second.text.toList.flatMap String.utf8EncodeChar) ∧
    (∀ first second : Descriptor, first < second ↔ first.codePoints < second.codePoints) ∧
    IsStrictTotalOrder Descriptor (· < ·) ∧
    (∀ first second : Descriptor,
      ¬ first < second ∧ ¬ second < first ↔ first.text = second.text) ∧
    ∀ descriptors : List Descriptor, descriptors.Nodup →
      (∃! sorted : List Descriptor, sorted.Perm descriptors ∧ sorted.Pairwise (· < ·)) ∧
      (sort descriptors).Perm descriptors ∧ (sort descriptors).Pairwise (· < ·) ∧
      ∀ table : TypeTable, (∀ descriptor, descriptor ∈ descriptors ↔ table.contains descriptor) →
        table.entries.map TypeInfo.descriptor = sort descriptors := by
  refine ⟨fun first second ↦ ?_, fun _ _ ↦ lt_iff_codePoints, inferInstance, fun first second ↦ ?_,
    fun descriptors hnodup ↦ ⟨?_, perm_sort descriptors, pairwise_sort hnodup,
      fun _ ↦ map_descriptor_entries_eq_sort hnodup⟩⟩
  · rw [← bytes_eq_flatMap, ← bytes_eq_flatMap]
    rfl
  · constructor
    · rintro ⟨h, h'⟩
      rcases lt_trichotomy first second with hlt | rfl | hgt
      · exact absurd hlt h
      · rfl
      · exact absurd hgt h'
    · intro htext
      obtain rfl : first = second := congrArg Descriptor.mk htext
      exact ⟨lt_irrefl first, lt_irrefl first⟩
  · exact ⟨sort descriptors, (eq_sort_iff hnodup).1 rfl, fun _ h ↦ (eq_sort_iff hnodup).2 h⟩

theorem order_by_codePoints_beyond_basic_plane :
    let descriptors : List Descriptor := [⟨"😀"⟩, ⟨"\uffff"⟩, ⟨"é"⟩, ⟨"z"⟩]
    let table := TypeTable.empty.insertAll (descriptors.map fun descriptor ↦ { descriptor })
    descriptors.Nodup ∧
      (∀ descriptor, descriptor ∈ descriptors ↔ table.contains descriptor) ∧
      (∃! sorted : List Descriptor, sorted.Perm descriptors ∧ sorted.Pairwise (· < ·)) ∧
      table.entries.map TypeInfo.descriptor = sort descriptors ∧
      table.entries.map TypeInfo.descriptor = [⟨"z"⟩, ⟨"é"⟩, ⟨"\uffff"⟩, ⟨"😀"⟩] := by
  intro descriptors table
  have hnodup : descriptors.Nodup := by decide
  have hlisted (descriptor : Descriptor) :
      descriptor ∈ descriptors ↔ table.contains descriptor := by
    have hdescriptors : table.descriptors = descriptors.toFinset :=
      TypeTable.descriptors_insertAll hnodup
    rw [TypeTable.contains, ← TypeTable.mem_descriptors, hdescriptors, List.mem_toFinset]
  obtain ⟨hunique, -, -, htable⟩ := order_by_codePoints.2.2.2.2 descriptors hnodup
  exact ⟨hnodup, hlisted, hunique, htable table hlisted, by decide +kernel⟩

end JvmSchema.Descriptor
