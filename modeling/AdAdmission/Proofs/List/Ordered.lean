import Mathlib

/-! Lists ordered so that a predicate holds on a first part of them and nowhere after. What is taken or
    dropped up to the end of that part is what filtering the whole list keeps, and whether an element stands in
    it can be told by looking at that element alone. -/

namespace AdAdmission
namespace Ordered
variable {α : Type} {p : α → Bool} {l : List α}

/-- Where the predicate fails, it fails from there on. -/
def Leading (p : α → Bool) (l : List α) : Prop := l.Pairwise fun x y => p y = true → p x = true

theorem takeWhile_eq_filter (h : Leading p l) : l.takeWhile p = l.filter p := by
  induction l with
  | nil => rfl
  | cons x l ih =>
    obtain ⟨hx, hl⟩ := List.pairwise_cons.mp h
    by_cases hp : p x = true
    · rw [List.takeWhile_cons_of_pos hp, List.filter_cons_of_pos hp, ih hl]
    · rw [List.takeWhile_cons_of_neg hp, List.filter_cons_of_neg hp, eq_comm, List.filter_eq_nil_iff]
      exact fun y hy hpy => hp (hx y hy hpy)

theorem dropWhile_eq_filter (h : Leading p l) : l.dropWhile p = l.filter fun x => !p x := by
  induction l with
  | nil => rfl
  | cons x l ih =>
    obtain ⟨hx, hl⟩ := List.pairwise_cons.mp h
    by_cases hp : p x = true
    · rw [List.dropWhile_cons_of_pos hp, List.filter_cons_of_neg (by simp [hp]), ih hl]
    · have hall : ∀ y ∈ x :: l, (!p y) = true := by
        intro y hy
        rcases List.mem_cons.mp hy with rfl | hy
        · simpa using hp
        · simpa using fun hpy => hp (hx y hy hpy)
      rw [List.dropWhile_cons_of_neg hp, List.filter_eq_self.mpr hall]

/-- An element stands in the first part just when the predicate holds of it. -/
theorem lt_findIdx_iff (h : Leading p l) {i : ℕ} {x : α} (hx : l[i]? = some x) :
    i < l.findIdx (fun y => !p y) ↔ p x = true := by
  obtain ⟨hi, rfl⟩ := List.getElem?_eq_some_iff.mp hx
  constructor
  · intro hlt
    simpa using List.not_of_lt_findIdx hlt
  · intro hp
    by_contra hge
    have hlen : l.findIdx (fun y => !p y) < l.length := lt_of_le_of_lt (Nat.le_of_not_lt hge) hi
    have hfail : p l[l.findIdx fun y => !p y] ≠ true := by simpa using List.findIdx_getElem (w := hlen)
    rcases Nat.eq_or_lt_of_le (Nat.le_of_not_lt hge) with heq | hlt
    · exact hfail (by simpa only [heq] using hp)
    · exact hfail (List.pairwise_iff_getElem.mp h _ _ hlen hi hlt hp)

end Ordered
end AdAdmission
