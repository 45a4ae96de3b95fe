import Mathlib
import AdAdmission.Rule

/-! The order of instants, and windows before an instant. Outside leap seconds an instant is a number of
    nanoseconds, and a window of so many seconds holds exactly the instants that are no further back than
    these seconds, counted without bounds: neither the longest span nor the earliest instant cuts a
    window short of an instant that belongs to it. Nor does the longest span make a wait seem over. -/

namespace AdAdmission
namespace Instant

/-- The beginning of 1 January 1970. -/
def epoch : Instant := (of? 0 0).getD earliest

/-! ### Order -/

theorem le_refl (t : Instant) : t ≤ t := le_iff.mpr (Or.inr ⟨rfl, Nat.le_refl _⟩)

theorem le_trans {t u v : Instant} (h₁ : t ≤ u) (h₂ : u ≤ v) : t ≤ v := by
  rw [le_iff] at h₁ h₂ ⊢
  omega

theorem le_antisymm {t u : Instant} (h₁ : t ≤ u) (h₂ : u ≤ t) : t = u := by
  rw [le_iff] at h₁ h₂
  have hsecond : t.second = u.second := by omega
  have hnanos : t.nanos = u.nanos := by omega
  cases t
  cases u
  cases hsecond
  cases hnanos
  rfl

theorem le_total (t u : Instant) : t ≤ u ∨ u ≤ t := by
  rw [le_iff, le_iff]
  omega

theorem not_lt {t u : Instant} : ¬t < u ↔ u ≤ t := Decidable.not_not

theorem le_of_lt {t u : Instant} (h : t < u) : t ≤ u := (le_total t u).resolve_right h

theorem lt_of_le_of_lt {t u v : Instant} (h₁ : t ≤ u) (h₂ : u < v) : t < v := fun h => h₂ (le_trans h h₁)

theorem lt_of_lt_of_le {t u v : Instant} (h₁ : t < u) (h₂ : u ≤ v) : t < v := fun h => h₁ (le_trans h₂ h)

theorem earliest_le (t : Instant) : earliest ≤ t := by
  have hlow : earliest.second ≤ t.second := t.lower
  have hnanos : earliest.nanos = 0 := rfl
  rw [le_iff]
  omega

/-! ### Nanoseconds -/

/-- The nanoseconds from 1 January 1970, where leap seconds are not counted. -/
def moment (t : Instant) : Int := t.second * 1000000000 + t.nanos

theorem le_iff_moment {t u : Instant} (ht : ¬t.InLeap) (hu : ¬u.InLeap) : t ≤ u ↔ t.moment ≤ u.moment := by
  have ht : ¬1000000000 ≤ t.nanos := ht
  have hu : ¬1000000000 ≤ u.nanos := hu
  rw [le_iff, moment, moment]
  omega

theorem moment_bounds (t : Instant) (ht : ¬t.InLeap) :
    Time.firstSecond * 1000000000 ≤ t.moment ∧ t.moment < (Time.lastSecond + 1) * 1000000000 := by
  have ht : ¬1000000000 ≤ t.nanos := ht
  have hlow := t.lower
  have hhigh := t.upper
  rw [moment]
  omega

/-- There is an instant so many nanoseconds from the beginning of a second just when its own second is
    within the range of instants. -/
theorem offset?_eq_some_iff {second nanos : Int} {u : Instant} :
    offset? second nanos = some u ↔ ¬u.InLeap ∧ u.moment = second * 1000000000 + nanos := by
  rw [offset?, of?, show u.InLeap ↔ 1000000000 ≤ u.nanos from Iff.rfl, moment]
  have hlow := u.lower
  have hhigh := u.upper
  constructor
  · intro h
    split at h
    · cases h
      dsimp only
      omega
    · cases h
  · rintro ⟨hleap, hmoment⟩
    have hsecond : second + nanos / 1000000000 = u.second := by omega
    have hnanos : (nanos % 1000000000).toNat = u.nanos := by omega
    simp only [hsecond, hnanos]
    rw [dif_pos ⟨u.nanos_lt, u.leap, u.lower, u.upper⟩]

theorem offset?_eq_none_iff {second nanos : Int} :
    offset? second nanos = none ↔ second * 1000000000 + nanos < Time.firstSecond * 1000000000 ∨
      (Time.lastSecond + 1) * 1000000000 ≤ second * 1000000000 + nanos := by
  rw [offset?, of?]
  split
  · simp only [reduceCtorEq, false_iff]
    omega
  · simp only [true_iff]
    omega

/-! ### Windows -/

/-- All time fits into the longest span, even with leap seconds at its ends and one more between. -/
theorem range_lt_longest : (Time.lastSecond + 3 - Time.firstSecond) * 1000000000 < Span.longest.nanos := by decide

/-- A span of whole seconds is as long as they are, or as the longest span. -/
theorem nanos_ofSeconds (s : UInt64) :
    (Span.ofSeconds s).nanos = min (s.toNat * 1000000000 : Int) Span.longest.nanos := by
  rw [Span.ofSeconds, Span.ofNanos?]
  have hl : Span.longest.nanos = 9223372036854775807000000 := rfl
  split
  · rw [min_eq_left (by omega)]
    rfl
  · rw [min_eq_right (by omega)]
    rfl

theorem windowStart_steady {now : Instant} (hnow : ¬now.InLeap) (d : Span) : ¬(now.windowStart d).InLeap := by
  rw [windowStart, after?, if_neg hnow]
  cases hoff : offset? now.second (now.nanos + d.negate.nanos) with
  | none => exact (by decide : ¬earliest.InLeap)
  | some u => exact (offset?_eq_some_iff.mp hoff).1

/-- A window begins its length before now, or at the earliest instant when that is later. -/
theorem moment_windowStart {now : Instant} (hnow : ¬now.InLeap) {d : Span} (hd : 0 ≤ d.nanos) :
    (now.windowStart d).moment = max (now.moment - d.nanos) earliest.moment := by
  have hm : now.moment = now.second * 1000000000 + now.nanos := rfl
  have he : earliest.moment = Time.firstSecond * 1000000000 := rfl
  have hnegate : d.negate.nanos = -d.nanos := rfl
  have hb := moment_bounds now hnow
  rw [windowStart, after?, if_neg hnow]
  cases hoff : offset? now.second (now.nanos + d.negate.nanos) with
  | none =>
    have hout := offset?_eq_none_iff.mp hoff
    rw [Option.getD_none]
    omega
  | some u =>
    obtain ⟨hu, hmoment⟩ := offset?_eq_some_iff.mp hoff
    have hub := moment_bounds u hu
    rw [Option.getD_some]
    omega

theorem moment_windowStart_ofSeconds {now : Instant} (hnow : ¬now.InLeap) (s : UInt64) :
    (now.windowStart (Span.ofSeconds s)).moment = max (now.moment - s.toNat * 1000000000) earliest.moment := by
  have hb := moment_bounds now hnow
  have he : earliest.moment = Time.firstSecond * 1000000000 := rfl
  have hrange := range_lt_longest
  have hs := nanos_ofSeconds s
  rw [moment_windowStart hnow (by omega)]
  omega

/-- A window of so many seconds before an instant begins no later than another instant just when that is
    no further back than these seconds. -/
theorem windowStart_le_iff {now t : Instant} (hnow : ¬now.InLeap) (ht : ¬t.InLeap) (s : UInt64) :
    Rule.windowStart now s ≤ t ↔ now.moment - t.moment ≤ s.toNat * 1000000000 := by
  have hfirst : earliest.moment ≤ t.moment := (moment_bounds t ht).1
  rw [Rule.windowStart, le_iff_moment (windowStart_steady hnow _) ht, moment_windowStart_ofSeconds hnow]
  omega

/-- Outside leap seconds the time between two instants is the difference of their nanoseconds. -/
theorem elapsed_eq {t u : Instant} (ht : ¬t.InLeap) (hu : ¬u.InLeap) : t.elapsed u = t.moment - u.moment := by
  simp only [elapsed, if_neg ht, if_neg hu, ite_self, moment]
  omega

/-- The time since an instant is shorter than a span of so many seconds just when it is shorter than these
    seconds. -/
theorem elapsed_lt_iff {now t : Instant} (hnow : ¬now.InLeap) (ht : ¬t.InLeap) (s : UInt64) :
    now.elapsed t < (Span.ofSeconds s).nanos ↔ now.moment - t.moment < s.toNat * 1000000000 := by
  have hb := moment_bounds t ht
  have hbn := moment_bounds now hnow
  have hrange := range_lt_longest
  rw [elapsed_eq hnow ht, nanos_ofSeconds]
  omega

end Instant
end AdAdmission
