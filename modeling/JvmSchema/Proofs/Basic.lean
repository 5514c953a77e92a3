import Mathlib.Data.List.Forall2

/-!
# Results and related lists

Facts that have nothing to do with schemas: when a computation that can fail has a result, and what
lists that are related item by item have in common.
-/

set_option autoImplicit false
set_option relaxedAutoImplicit false

namespace JvmSchema

/-! ### Results -/

section Results

variable {ε ε' α β : Type}

theorem bind_eq_ok_iff {first : Except ε α} {next : α → Except ε β} {result : β} :
    first >>= next = .ok result ↔ ∃ value, first = .ok value ∧ next value = .ok result := by
  cases first <;> simp [bind, Except.bind]

theorem mapError_eq_ok_iff {change : ε → ε'} {result : Except ε α} {value : α} :
    result.mapError change = .ok value ↔ result = .ok value := by
  cases result <;> simp [Except.mapError]

theorem toOption_eq_some_iff {result : Except ε α} {value : α} :
    result.toOption = some value ↔ result = .ok value := by
  cases result <;> simp [Except.toOption]

theorem toOption_bind (result : Except ε α) (next : α → Except ε β) :
    (result >>= next).toOption = result.toOption.bind fun value ↦ (next value).toOption := by
  cases result <;> rfl

theorem toOption_mapError (change : ε → ε') (result : Except ε α) :
    (result.mapError change).toOption = result.toOption := by
  cases result <;> rfl

end Results

/-! ### Lists that are related item by item -/

section Lists

variable {α β : Type} {related : α → β → Prop} {items : List α} {others : List β}

/-- What can be found for each of several things can be found for all of them in order. -/
theorem exists_forall₂ (h : ∀ item ∈ items, ∃ other, related item other) :
    ∃ others, List.Forall₂ related items others := by
  induction items with
  | nil => exact ⟨[], .nil⟩
  | cons item items ih =>
    obtain ⟨⟨other, hfirst⟩, hitems⟩ := List.forall_mem_cons.1 h
    obtain ⟨others, hothers⟩ := ih hitems
    exact ⟨other :: others, .cons hfirst hothers⟩

theorem exists_rel_of_mem_left (h : List.Forall₂ related items others) {item : α}
    (hitem : item ∈ items) : ∃ other ∈ others, related item other := by
  induction h with
  | nil => exact absurd hitem List.not_mem_nil
  | cons hfirst _ ih =>
    rcases List.mem_cons.1 hitem with rfl | hitem
    · exact ⟨_, List.mem_cons_self, hfirst⟩
    · obtain ⟨other, hother, hrelated⟩ := ih hitem
      exact ⟨other, List.mem_cons_of_mem _ hother, hrelated⟩

theorem exists_rel_of_mem_right (h : List.Forall₂ related items others) {other : β}
    (hother : other ∈ others) : ∃ item ∈ items, related item other :=
  exists_rel_of_mem_left h.flip hother

end Lists

end JvmSchema
