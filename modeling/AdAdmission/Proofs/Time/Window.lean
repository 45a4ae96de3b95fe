import Mathlib
import AdAdmission.Proofs.Time.Order

/-! Windows at the ends of time. The seconds of a window may be cut off twice, at the longest span and at the earliest
    instant, but no instant is lost by it: no two instants are as far apart as the longest span, and none is
    before the earliest one. So the start of a window moves on with its end and back with its length, and which
    instants it holds is decided by nanoseconds counted without bounds. -/

namespace AdAdmission
namespace Instant

theorem le_latest {t : Instant} (ht : ¬t.InLeap) : t ≤ latest := by
  have hb := moment_bounds t ht
  have hl : latest.moment = Time.lastSecond * 1000000000 + 999999999 := rfl
  rw [le_iff_moment ht (by decide)]
  omega

theorem windowStart_mono {now later : Instant} (hnow : ¬now.InLeap) (hlater : ¬later.InLeap) (hle : now ≤ later)
    (s : UInt64) : now.windowStart (Span.ofSeconds s) ≤ later.windowStart (Span.ofSeconds s) := by
  rw [le_iff_moment hnow hlater] at hle
  rw [le_iff_moment (windowStart_steady hnow _) (windowStart_steady hlater _), moment_windowStart_ofSeconds hnow,
    moment_windowStart_ofSeconds hlater]
  exact max_le_max_right _ (sub_le_sub_right hle _)

theorem windowStart_antitone {now : Instant} (hnow : ¬now.InLeap) {s longer : UInt64} (hle : s ≤ longer) :
    now.windowStart (Span.ofSeconds longer) ≤ now.windowStart (Span.ofSeconds s) := by
  have hle : s.toNat ≤ longer.toNat := UInt64.le_iff_toNat_le.mp hle
  rw [le_iff_moment (windowStart_steady hnow _) (windowStart_steady hnow _), moment_windowStart_ofSeconds hnow,
    moment_windowStart_ofSeconds hnow]
  exact max_le_max_right _ (by omega)

/-- No two instants are further apart than the longest span, leap seconds or not. -/
theorem exists_span_elapsed (t u : Instant) : ∃ d : Span, d.nanos = t.elapsed u := by
  have ht := t.lower
  have ht' := t.upper
  have hu := u.lower
  have hu' := u.upper
  have htn := t.nanos_lt
  have hun := u.nanos_lt
  have hrange := range_lt_longest
  have hl : Span.longest.nanos = 9223372036854775807000000 := rfl
  refine ⟨⟨t.elapsed u, ?_, ?_⟩, rfl⟩
  · simp only [elapsed]
    split_ifs <;> omega
  · simp only [elapsed]
    split_ifs <;> omega

/-- Outside leap seconds, a window of so many seconds reaches back to an instant just when that is no further back than
    these seconds, and less than their span has passed since the instant just when this holds without bounds. The window
    begins at the difference, cut off at the earliest instant; it begins no earlier when it ends later, and no later
    when it is longer. The span of the seconds is cut off at the longest span, and no two instants are further apart
    than that. -/
theorem windowStart_exact {now t : Instant} (hnow : ¬now.InLeap) (ht : ¬t.InLeap) (s : UInt64) :
    (now.windowStart (Span.ofSeconds s) ≤ t ↔ now.moment - t.moment ≤ s.toNat * 1000000000) ∧
      (now.elapsed t < (Span.ofSeconds s).nanos ↔ now.moment - t.moment < s.toNat * 1000000000) ∧
      (now.windowStart (Span.ofSeconds s)).moment = max (now.moment - s.toNat * 1000000000) earliest.moment ∧
      (∀ later : Instant, ¬later.InLeap → now ≤ later →
        now.windowStart (Span.ofSeconds s) ≤ later.windowStart (Span.ofSeconds s)) ∧
      (∀ longer : UInt64, s ≤ longer →
        now.windowStart (Span.ofSeconds longer) ≤ now.windowStart (Span.ofSeconds s)) ∧
      (earliest ≤ now.windowStart (Span.ofSeconds s) ∧ now.windowStart (Span.ofSeconds s) ≤ latest) ∧
      (Span.ofSeconds s).nanos = min (s.toNat * 1000000000 : Int) Span.longest.nanos ∧
      ∀ u v : Instant, ∃ d : Span, d.nanos = u.elapsed v :=
  ⟨windowStart_le_iff hnow ht s, elapsed_lt_iff hnow ht s, moment_windowStart_ofSeconds hnow s,
    fun _ hlater hle => windowStart_mono hnow hlater hle s, fun _ hle => windowStart_antitone hnow hle,
    ⟨earliest_le _, le_latest (windowStart_steady hnow _)⟩, nanos_ofSeconds s, exists_span_elapsed⟩

/-- From the earliest instant to the latest there are 16544868105600 seconds, less a nanosecond. A window of one second
    fewer does not reach back all the way, one of so many does, and the longest one begins at the earliest instant too. -/
theorem windows_of_all_time :
    ¬latest.windowStart (Span.ofSeconds 16544868105599) ≤ earliest ∧
      latest.windowStart (Span.ofSeconds 16544868105600) ≤ earliest ∧
      (latest.windowStart (Span.ofSeconds 18446744073709551615)).moment = earliest.moment ∧
      latest.elapsed earliest < (Span.ofSeconds 18446744073709551615).nanos := by
  have h (s : UInt64) := windowStart_exact (show ¬latest.InLeap by decide) (show ¬earliest.InLeap by decide) s
  refine ⟨fun hle => ?_, (h _).1.mpr (by decide), ?_, (h _).2.1.mpr (by decide)⟩
  · exact absurd ((h _).1.mp hle) (by decide)
  · rw [(h _).2.2.1]
    decide

end Instant
end AdAdmission
