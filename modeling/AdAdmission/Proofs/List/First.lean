import Mathlib

/-! The first position of a list where a search finds something. Whether the head is that position or not
    decides between it and a first position of the tail. -/

namespace AdAdmission
namespace First

/-- A first position is the one of the head, or the head is passed over and it is a first position of the tail. -/
theorem exists_first_iff {found passed : ℕ → Prop} : (∃ i, found i ∧ ∀ j < i, passed j) ↔
    found 0 ∨ passed 0 ∧ ∃ i, found (i + 1) ∧ ∀ j < i, passed (j + 1) := by
  constructor
  · rintro ⟨i, hfound, hpassed⟩
    cases i with
    | zero => exact Or.inl hfound
    | succ i => exact Or.inr ⟨hpassed 0 i.succ_pos, i, hfound, fun j hj => hpassed (j + 1) (Nat.succ_lt_succ hj)⟩
  · rintro (hfound | ⟨hpassed, i, hfound, hrest⟩)
    · exact ⟨0, hfound, fun j hj => absurd hj j.not_lt_zero⟩
    · refine ⟨i + 1, hfound, fun j hj => ?_⟩
      cases j with
      | zero => exact hpassed
      | succ j => exact hrest j (Nat.lt_of_succ_lt_succ hj)

variable {α β : Type} {f : α → Option β} {l : List α} {b : β}

theorem findSome?_eq_some_iff : l.findSome? f = some b ↔
    ∃ i : ℕ, (∃ x, l[i]? = some x ∧ f x = some b) ∧ ∀ j < i, ∀ y, l[j]? = some y → f y = none := by
  induction l with
  | nil => simp
  | cons x l ih =>
    rw [exists_first_iff, List.findSome?_cons]
    cases hx : f x <;> simp [hx, ih]

section
variable {found : ℕ → β → Prop} (hfound : ∀ i b, found i b ↔ ∃ x, l[i]? = some x ∧ f x = some b)
include hfound

theorem findSome?_eq_none_iff_of : l.findSome? f = none ↔ ∀ i b, ¬found i b := by
  rw [List.findSome?_eq_none_iff]
  constructor
  · intro hnone i b hb
    obtain ⟨x, hx, hfx⟩ := (hfound i b).mp hb
    exact Option.some_ne_none b (hfx.symm.trans (hnone x (List.mem_of_getElem? hx)))
  · intro hnone x hx
    obtain ⟨i, hi⟩ := List.getElem?_of_mem hx
    exact Option.eq_none_iff_forall_ne_some.mpr fun b hb => hnone i b ((hfound i b).mpr ⟨x, hi, hb⟩)

theorem findSome?_eq_some_iff_of : l.findSome? f = some b ↔ ∃ i, found i b ∧ ∀ j < i, ∀ b', ¬found j b' := by
  have hpassed : ∀ j, (∀ y, l[j]? = some y → f y = none) ↔ ∀ b', ¬found j b' := by
    intro j
    simp only [hfound, not_exists, not_and, Option.eq_none_iff_forall_ne_some]
    exact ⟨fun h b' y hy => h y hy b', fun h y hy b' => h b' y hy⟩
  simp only [findSome?_eq_some_iff, hfound, hpassed]

end

theorem findSome?_filter {p : α → Bool} :
    (l.filter p).findSome? f = l.findSome? fun x => if p x then f x else none := by
  induction l with
  | nil => rfl
  | cons x l ih =>
    rw [List.findSome?_cons, ← ih]
    by_cases hp : p x = true
    · rw [List.filter_cons_of_pos hp, List.findSome?_cons, if_pos hp]
    · rw [List.filter_cons_of_neg hp, if_neg hp]

end First
end AdAdmission
