import Mathlib
import AdAdmission.Time.Calendar

/-! The calendar and the count of days. The day found for a number exists and has that number, and its
    year is the one whose first day is the last not after it. -/

namespace AdAdmission
namespace Time

/-! ### Years -/

theorem daysBeforeYear_mono {y z : Int} (h : y ≤ z) : daysBeforeYear y ≤ daysBeforeYear z := by
  unfold daysBeforeYear
  omega

/-- The estimate of the year is off by at most one. -/
theorem yearOf_spec (n : Int) :
    daysBeforeYear (Date.yearOf n) ≤ n ∧ n < daysBeforeYear (Date.yearOf n + 1) := by
  have hlow : daysBeforeYear (n * 400 / 146097 - 1) ≤ n := by
    unfold daysBeforeYear
    omega
  have hhigh : n < daysBeforeYear (n * 400 / 146097 + 1 + 1) := by
    unfold daysBeforeYear
    omega
  unfold Date.yearOf
  dsimp only
  split
  · exact ⟨‹_›, hhigh⟩
  · split
    · exact ⟨‹_›, by omega⟩
    · rw [Int.sub_add_cancel]
      exact ⟨hlow, by omega⟩

/-! ### Months -/

theorem daysBeforeMonth_succ (y : Int) {m : Nat} (h : m ≠ 0) :
    daysBeforeMonth y (m + 1) = daysBeforeMonth y m + monthLength y m := by
  cases m with
  | zero => exact absurd rfl h
  | succ m => rfl

theorem daysBeforeMonth_thirteen (y : Int) : daysBeforeMonth y 13 = if isLeap y then 366 else 365 := by
  simp only [daysBeforeMonth, monthLength]
  split <;> rfl

/-- A day counted within consecutive months falls into one of them. -/
theorem monthOf_range' (y : Int) (count : Nat) {m n : Nat} (hm : m ≠ 0)
    (hn : daysBeforeMonth y m + n < daysBeforeMonth y (m + count)) :
    ∃ d, Date.monthOf y (List.range' m count) n = d ∧ m ≤ d.1 ∧ d.1 < m + count ∧ 1 ≤ d.2 ∧
      d.2 ≤ monthLength y d.1 ∧ daysBeforeMonth y d.1 + d.2 = daysBeforeMonth y m + n + 1 := by
  induction count generalizing m n with
  | zero =>
    rw [Nat.add_zero] at hn
    omega
  | succ count ih =>
    have hsucc := daysBeforeMonth_succ y hm
    rw [List.range'_succ, Date.monthOf]
    split
    · refine ⟨(m, n + 1), rfl, ?_⟩
      dsimp only
      omega
    · rename_i hlt
      rw [show m + (count + 1) = m + 1 + count by omega] at hn
      obtain ⟨d, hd, h1, h2, h3, h4, h5⟩ := ih (m := m + 1) (n := n - monthLength y m) (by omega) (by omega)
      exact ⟨d, hd, by omega, by omega, h3, h4, by omega⟩

/-! ### Days -/

/-- The day found for a number: its year begins not after it, it exists, and it has the number. -/
theorem ofNumber_spec (n : Int) : (Date.ofNumber n).Exists ∧ (Date.ofNumber n).number = n ∧
    daysBeforeYear (Date.ofNumber n).year ≤ n + epochOffset ∧
      n + epochOffset < daysBeforeYear ((Date.ofNumber n).year + 1) := by
  obtain ⟨hlow, hhigh⟩ := yearOf_spec (n + epochOffset)
  have hlen := daysBeforeYear_succ (Date.yearOf (n + epochOffset))
  have h13 := daysBeforeMonth_thirteen (Date.yearOf (n + epochOffset))
  generalize hy : Date.yearOf (n + epochOffset) = y at *
  have hdays : daysBeforeMonth y 1 + (n + epochOffset - daysBeforeYear y).toNat < daysBeforeMonth y (1 + 12) := by
    rw [h13, show daysBeforeMonth y 1 = 0 from rfl]
    split at hlen <;> split <;> omega
  obtain ⟨d, hd, h1, h2, h3, h4, h5⟩ := monthOf_range' y 12 Nat.one_ne_zero hdays
  have hday : Date.ofNumber n = ⟨y, d.1, d.2⟩ := by
    rw [Date.ofNumber, hy, show [1, 2, 3, 4, 5, 6, 7, 8, 9, 10, 11, 12] = List.range' 1 12 from rfl, hd]
  rw [hday]
  refine ⟨⟨h1, Nat.le_of_lt_succ h2, h3, h4⟩, ?_, hlow, hhigh⟩
  rw [show daysBeforeMonth y 1 = 0 from rfl] at h5
  simp only [Date.number]
  omega

theorem number_ofNumber (n : Int) : (Date.ofNumber n).number = n := (ofNumber_spec n).2.1

theorem exists_ofNumber (n : Int) : (Date.ofNumber n).Exists := (ofNumber_spec n).1

end Time
end AdAdmission
