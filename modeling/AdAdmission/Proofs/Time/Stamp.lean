import Mathlib
import AdAdmission.Time.Stamp
import AdAdmission.Proofs.Text.Digits
import AdAdmission.Proofs.Time.Calendar

/-! Reading the text of an instant. Every instant is read back from its text, over all years and down to
    the nanosecond, and within leap seconds too. Each part is read back with the rest of the text behind
    it; the digits of a part are never blank, and the mark after them is no digit. -/

namespace AdAdmission
namespace Instant
open Text Time

/-! ### Numbers -/

theorem isBlankChar_of_isDigit {c : Char} (h : c.isDigit = true) : isBlankChar c = false := by
  have := isDigit_iff.mp h
  simp only [Char.reduceToNat] at this
  simp only [isBlankChar, Bool.or_eq_false_iff, Bool.and_eq_false_iff, decide_eq_false_iff_not, beq_eq_false_iff_ne,
    UInt32.le_iff_toNat_le, ne_eq, ← UInt32.toNat_inj, UInt32.reduceToNat, Char.toNat] at this ⊢
  omega

theorem skipBlank_cons {c : Char} (h : isBlankChar c = false) (cs : List Char) : skipBlank (c :: cs) = c :: cs := by
  rw [skipBlank, List.dropWhile_cons_of_neg (by rw [h]; decide)]

theorem skipBlank_digits {ds : List Char} (hds : AllDigits ds) (hne : ds ≠ []) (rest : List Char) :
    skipBlank (ds ++ rest) = ds ++ rest := by
  obtain ⟨c, cs, rfl⟩ := List.exists_cons_of_ne_nil hne
  exact skipBlank_cons (isBlankChar_of_isDigit (hds c List.mem_cons_self)) _

/-- A text that begins with no digit. -/
def Breaks (rest : List Char) : Prop := ∀ c r, rest = c :: r → c.isDigit = false

theorem breaks_cons {c : Char} (h : c.isDigit = false) (rest : List Char) : Breaks (c :: rest) := fun _ _ hr => by
  cases hr
  exact h

theorem takeWhile_isDigit {ds rest : List Char} (hds : AllDigits ds) (hrest : Breaks rest) :
    (ds ++ rest).takeWhile Char.isDigit = ds := by
  rw [List.takeWhile_append_of_pos hds]
  cases rest with
  | nil => simp
  | cons c r => simp [hrest c r rfl]

theorem takeNumber_exact {ds : List Char} (hds : AllDigits ds) (hne : ds ≠ []) (rest : List Char) :
    takeNumber ds.length (ds ++ rest) = some (valueOf ds, rest) := by
  have hnil : Breaks [] := fun _ _ h => by cases h
  have h := takeWhile_isDigit hds hnil
  rw [List.append_nil] at h
  rw [takeNumber, List.take_left, h]
  simp [hne]

theorem takeNumber_all {ds rest : List Char} (hds : AllDigits ds) (hne : ds ≠ []) (hrest : Breaks rest) :
    takeNumber (ds ++ rest).length (ds ++ rest) = some (valueOf ds, rest) := by
  rw [takeNumber, List.take_length, takeWhile_isDigit hds hrest]
  simp [hne]

theorem takeField_padded {n least most : Nat} (hn : n < 100) (hl : least ≤ n) (hm : n ≤ most) (rest : List Char) :
    takeField least most (padded 2 n ++ rest) = some (n, rest) := by
  have hds := allDigits_padded 2 n
  have hne := padded_ne_nil 2 n
  have h := takeNumber_exact hds hne rest
  rw [length_padded (by decide) hn, valueOf_padded] at h
  rw [takeField, skipBlank_digits hds hne, h]
  simp [hl, hm]

theorem takeMark_cons {mark : Char} (h : isBlankChar mark = false) (rest : List Char) :
    takeMark mark (mark :: rest) = some rest := by
  rw [takeMark, skipBlank_cons h]
  simp

/-! ### Years and fractions -/

theorem takeYear_writeYear (y : Int) {rest : List Char} (hrest : Breaks rest) :
    takeYear (writeYear y ++ rest) = some (y, rest) := by
  unfold writeYear
  split
  · rename_i hy
    have hds := allDigits_padded 4 y.toNat
    have hne := padded_ne_nil 4 y.toNat
    have h := takeNumber_exact hds hne rest
    rw [length_padded (by decide) (by omega), valueOf_padded] at h
    rw [takeYear, skipBlank_digits hds hne]
    obtain ⟨c, cs, hcs⟩ := List.exists_cons_of_ne_nil hne
    have hc : c.isDigit = true := hds c (by rw [hcs]; exact List.mem_cons_self)
    rw [hcs, List.cons_append] at h ⊢
    split
    · rename_i heq
      cases heq
      cases hc
    · rename_i heq
      cases heq
      cases hc
    · simp only [h, Option.map_some, Int.toNat_of_nonneg hy.1]
  · have hds := allDigits_padded 4 y.natAbs
    have hne := padded_ne_nil 4 y.natAbs
    have h := takeNumber_all hds hne hrest
    rw [valueOf_padded] at h
    by_cases hy : y < 0
    · rw [if_pos hy, takeYear, List.cons_append, skipBlank_cons (by decide)]
      simp only [h, Option.map_some, show -((y.natAbs : Nat) : Int) = y by omega]
    · rw [if_neg hy, takeYear, List.cons_append, skipBlank_cons (by decide)]
      simp only [h, Option.map_some, show ((y.natAbs : Nat) : Int) = y by omega]

theorem takeFraction_padded {width n : Nat} (hw : 0 < width) (hw9 : width ≤ 9) (hn : n < 10 ^ width)
    {rest : List Char} (hrest : Breaks rest) :
    takeFraction ('.' :: padded width n ++ rest) = some (n * 10 ^ (9 - width), rest) := by
  have hds := allDigits_padded width n
  have hlen := length_padded hw hn
  rw [List.cons_append, takeFraction]
  dsimp only
  rw [takeWhile_isDigit hds hrest, List.take_of_length_le (by omega), valueOf_padded, hlen]
  rw [if_neg (by simp [padded_ne_nil]), List.drop_left' hlen]
  rfl

theorem takeFraction_writeFraction {n : Nat} (hn : n < 1000000000) {rest : List Char} (hrest : Breaks rest)
    (hpoint : ∀ r, rest ≠ '.' :: r) : takeFraction (writeFraction n ++ rest) = some (n, rest) := by
  unfold writeFraction
  split_ifs with h0 h3 h6
  · rw [List.nil_append, takeFraction.eq_def]
    split
    · exact absurd rfl (hpoint _)
    · rw [h0]
  · rw [takeFraction_padded (by decide) (by decide) (by omega) hrest]
    congr 2
    omega
  · rw [takeFraction_padded (by decide) (by decide) (by omega) hrest]
    congr 2
    omega
  · rw [takeFraction_padded (by decide) (by decide) (by omega) hrest, Nat.sub_self, pow_zero, Nat.mul_one]

/-! ### Instants -/

theorem bind_of_eq_some {α β : Type} {x : Option α} {a : α} (h : x = some a) (f : α → Option β) : x >>= f = f a := by
  rw [h]
  rfl

/-- The year of an instant is within the range of years. -/
theorem date_year_bounds (t : Instant) : -262143 ≤ t.date.year ∧ t.date.year ≤ 262142 := by
  have hlow := t.lower
  have hhigh := t.upper
  obtain ⟨-, -, hyear, hnext⟩ := ofNumber_spec (t.second / 86400)
  rw [show Date.ofNumber (t.second / 86400) = t.date from rfl] at hyear hnext
  have hfirst : daysBeforeYear (-262143) = (firstSecond / 86400) + epochOffset := by decide
  have hlast : daysBeforeYear 262143 = (lastSecond / 86400) + 1 + epochOffset := by decide
  constructor
  · by_contra hlt
    have := daysBeforeYear_mono (show t.date.year + 1 ≤ -262143 by omega)
    omega
  · by_contra hlt
    have := daysBeforeYear_mono (show 262143 ≤ t.date.year by omega)
    omega

theorem number_date (t : Instant) : t.date.number = t.second / 86400 := number_ofNumber _

theorem exists_date (t : Instant) : t.date.Exists := exists_ofNumber _

theorem of?_self (t : Instant) : of? t.second t.nanos = some t :=
  dif_pos ⟨t.nanos_lt, t.leap, t.lower, t.upper⟩

/-- An instant is put together again from its date and its time of day. -/
theorem ofLocal?_date (t : Instant) :
    ofLocal? t.date (t.secondOfDay.toNat / 3600) (t.secondOfDay.toNat / 60 % 60)
      (t.secondOfDay.toNat % 60 + if t.InLeap then 1 else 0)
      (t.nanos - (if t.InLeap then 1 else 0) * 1000000000) 0 = some t := by
  have hday := number_date t
  have hs : t.secondOfDay = t.second % 86400 := rfl
  rw [ofLocal?, if_pos ⟨exists_date t, date_year_bounds t⟩]
  -- Within a leap second the second of the minute is 59, and it is written as 60.
  by_cases h : t.InLeap
  · have h59 := t.leap h
    have hl : 1000000000 ≤ t.nanos := h
    have hsixty : t.secondOfDay.toNat % 60 + 1 = 60 := by omega
    simp only [h, if_true, hsixty]
    rw [show t.nanos - 1 * 1000000000 + 1 * 1000000000 = t.nanos by omega]
    rw [← of?_self t]
    congr 1
    omega
  · have hlt : t.secondOfDay.toNat % 60 ≠ 60 := by omega
    simp only [h, if_false, Nat.add_zero, Nat.zero_mul, Nat.sub_zero, hlt]
    rw [← of?_self t]
    congr 1
    omega

/-- The text of an instant reads back as the instant. -/
theorem ofStamp?_stamp (t : Instant) : ofStamp? t.stamp = some t := by
  have hs : t.secondOfDay = t.second % 86400 := rfl
  obtain ⟨hm1, hm12, hd1, hdlen⟩ := exists_date t
  have hd31 : t.date.day ≤ 31 := le_trans hdlen (by unfold monthLength; split <;> (try split) <;> omega)
  have hleap : (if t.InLeap then 1 else 0) ≤ 1 := by split <;> decide
  have hnanos : t.nanos - (if t.InLeap then 1 else 0) * 1000000000 < 1000000000 := by
    have := t.nanos_lt
    split
    · omega
    · rename_i h
      have : ¬1000000000 ≤ t.nanos := h
      omega
  rw [stamp, writeDate, writeTime]
  simp only [List.append_assoc, List.cons_append]
  rw [ofStamp?, bind_of_eq_some (takeYear_writeYear _ (breaks_cons rfl _))]
  dsimp only
  rw [bind_of_eq_some (takeMark_cons (by decide) _), bind_of_eq_some (takeField_padded (by omega) hm1 hm12 _)]
  dsimp only
  rw [bind_of_eq_some (takeMark_cons (by decide) _), bind_of_eq_some (takeField_padded (by omega) hd1 hd31 _)]
  -- The mark between the date and the time of day.
  change takeField 0 23 _ >>= _ = _
  rw [bind_of_eq_some (takeField_padded (by omega) (by omega) (by omega) _)]
  dsimp only
  rw [bind_of_eq_some (takeMark_cons (by decide) _),
    bind_of_eq_some (takeField_padded (by omega) (by omega) (by omega) _)]
  dsimp only
  rw [bind_of_eq_some (takeMark_cons (by decide) _),
    bind_of_eq_some (takeField_padded (by omega) (by omega) (by omega) _)]
  dsimp only
  rw [bind_of_eq_some (takeFraction_writeFraction hnanos (breaks_cons rfl []) fun _ h => by cases h)]
  exact ofLocal?_date t

theorem parse?_iso (t : Instant) : parse? t.iso = some t := by
  rw [parse?, iso, String.toList_ofList, ofStamp?_stamp]

end Instant
end AdAdmission
