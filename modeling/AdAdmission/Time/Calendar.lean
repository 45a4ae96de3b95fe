/-! The Gregorian calendar, extended to all years, and its count of days. Day 0 is 1 January 1970. The
    year of a day is found by an estimate that is off by at most one, the month by walking through the
    months of that year. -/

namespace AdAdmission
namespace Time

/-- A year has a 29 February when it is divisible by four, but by one hundred only together with four
    hundred. -/
def isLeap (y : Int) : Bool := y % 4 == 0 && (y % 100 != 0 || y % 400 == 0)

/-- The number of days in a month, counted from one. -/
def monthLength (y : Int) (month : Nat) : Nat :=
  match month with
  | 2 => if isLeap y then 29 else 28
  | 4 | 6 | 9 | 11 => 30
  | _ => 31

/-- The days from 1 January of year 0 to 1 January of year `y`. -/
def daysBeforeYear (y : Int) : Int := 365 * y + (y + 3) / 4 - (y + 99) / 100 + (y + 399) / 400

/-- The days from 1 January of year 0 to 1 January 1970. -/
def epochOffset : Int := 719528

/-- The days of a year before its given month. -/
def daysBeforeMonth (y : Int) : Nat → Nat
  | 0 => 0
  | 1 => 0
  | m + 1 => daysBeforeMonth y m + monthLength y m

/-- A day of the calendar. -/
structure Date where
  year : Int
  month : Nat
  day : Nat
deriving DecidableEq

namespace Date

/-- The month and the day exist in the year. -/
def Exists (d : Date) : Prop :=
  1 ≤ d.month ∧ d.month ≤ 12 ∧ 1 ≤ d.day ∧ d.day ≤ monthLength d.year d.month

instance (d : Date) : Decidable d.Exists := by unfold Exists; infer_instance

/-- The number of a day. -/
def number (d : Date) : Int :=
  daysBeforeYear d.year + daysBeforeMonth d.year d.month + d.day - 1 - epochOffset

/-- The year that a day belongs to, counted from 1 January of year 0. -/
def yearOf (n : Int) : Int :=
  let guess := n * 400 / 146097
  if daysBeforeYear (guess + 1) ≤ n then guess + 1
  else if daysBeforeYear guess ≤ n then guess
  else guess - 1

/-- The month and the day within it, from a day counted from zero within the given months. -/
def monthOf (y : Int) : List Nat → Nat → Nat × Nat
  | [], _ => (12, 31)
  | m :: ms, n => if n < monthLength y m then (m, n + 1) else monthOf y ms (n - monthLength y m)

/-- The day with the given number. -/
def ofNumber (n : Int) : Date :=
  let days := n + epochOffset
  let y := yearOf days
  let (m, d) := monthOf y [1, 2, 3, 4, 5, 6, 7, 8, 9, 10, 11, 12] (days - daysBeforeYear y).toNat
  ⟨y, m, d⟩

end Date

theorem daysBeforeYear_succ (y : Int) :
    daysBeforeYear (y + 1) = daysBeforeYear y + if isLeap y then 366 else 365 := by
  unfold daysBeforeYear isLeap
  by_cases h4 : y % 4 = 0 <;> by_cases h100 : y % 100 = 0 <;> by_cases h400 : y % 400 = 0 <;>
    simp [h4, h100, h400] <;> omega

end Time
end AdAdmission
