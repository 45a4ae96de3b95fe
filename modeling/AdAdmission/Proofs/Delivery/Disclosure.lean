import Mathlib
import AdAdmission.Proofs.Candidate.Validation
import AdAdmission.Proofs.Delivery.Lockstep
import AdAdmission.Proofs.Signal.Category

/-! What signals disclose. Whoever sees the signals of two deliveries learns whether the ads are of the same surface and
    the same coarse category, and nothing else: not which ad it was and what it says, not the child category, and
    nothing of the rules, the history and the clock at which it was delivered. -/

namespace AdAdmission

/-- The candidates are of one surface, and their segments have one coarse category. -/
def Candidate.SameDisclosure (c₁ c₂ : Candidate) : Prop :=
  c₁.kind = c₂.kind ∧ ∃ text, Signal.IsCategory c₁.segment text ∧ Signal.IsCategory c₂.segment text

theorem Candidate.sameDisclosure_iff {c₁ c₂ : Candidate} {s₁ s₂ : Segment} (h₁ : s₁.text = c₁.segment)
    (h₂ : s₂.text = c₂.segment) : SameDisclosure c₁ c₂ ↔ Signal.impression c₁.kind s₁ = .impression c₂.kind s₂ := by
  rw [SameDisclosure, Signal.impression_eq_iff, ← h₁, ← h₂]
  simp only [Signal.isCategory_iff]
  refine and_congr_right' ⟨?_, fun h => ⟨_, rfl, h⟩⟩
  rintro ⟨text, htext, htext'⟩
  exact htext.symm.trans htext'

namespace Desk

/-- A delivered candidate has its signal reported, and no other. -/
theorem reported_of_delivered {d : Desk} {c : Candidate} (h : (d.deliver c).answer = .ok .delivered) :
    ∃ segment : Segment, segment.text = c.segment ∧
      (d.deliver c).desk.reported = d.reported ++ [.impression c.kind segment] := by
  have hend := delivery_deliver d c
  generalize d.deliver c = r at hend h ⊢
  cases hend with
  | rejected => cases h
  | suppressed => cases h
  | recorded hc => exact ⟨_, Candidate.text_of_check hc, rfl⟩
  | dropped hc => exact ⟨_, Candidate.text_of_check hc, rfl⟩
  | unrecorded => cases h

/-- Two deliveries at whatever desks report the same signal, and the same JSON text, just when the ads are of one
    surface and one coarse category. The questions of a segment tell its category and nothing else of it. -/
theorem signals_disclose_surface_and_category :
    (∀ (d₁ d₂ : Desk) (c₁ c₂ : Candidate), (d₁.deliver c₁).answer = .ok .delivered →
      (d₂.deliver c₂).answer = .ok .delivered → ∃ s₁ s₂ : Signal,
        (d₁.deliver c₁).desk.reported = d₁.reported ++ [s₁] ∧ (d₂.deliver c₂).desk.reported = d₂.reported ++ [s₂] ∧
          (s₁ = s₂ ↔ c₁.SameDisclosure c₂) ∧ (s₁.toJson.compact = s₂.toJson.compact ↔ c₁.SameDisclosure c₂)) ∧
      ∀ s : Segment, ∃ text, Signal.Asks s text := by
  refine ⟨fun d₁ d₂ c₁ c₂ h₁ h₂ => ?_, fun s => ⟨_, Signal.asks_category s⟩⟩
  obtain ⟨segment₁, htext₁, hreported₁⟩ := reported_of_delivered h₁
  obtain ⟨segment₂, htext₂, hreported₂⟩ := reported_of_delivered h₂
  have hsame := Candidate.sameDisclosure_iff htext₁ htext₂
  exact ⟨_, _, hreported₁, hreported₂, hsame.symm, Signal.compact_eq_iff.trans hsame.symm⟩

/-- Another ad than the plain candidate, though of its surface and category. -/
def loudCandidate : Candidate := ⟨"other", "sets", " NEWS!-Sport", .notification "read" "all" "https://[::1]/"⟩

theorem fault?_loud : loudCandidate.fault? = none := by
  have htarget : WebAddress "https://[::1]/" := Or.inr scheme_plain
  exact Candidate.fault?_eq_none_iff.mpr ⟨⟨'o', by decide, by decide⟩, ⟨'N', by decide, by decide⟩,
    ⟨'r', by decide, by decide⟩, ⟨'a', by decide, by decide⟩, ⟨'h', by decide, by decide⟩, htarget⟩

/-- The ads are delivered at different instants, and one report fails. Both reports were of the same signal. -/
theorem loud_candidate_not_told_apart :
    ((start [] Log.fresh Instant.epoch none).deliver plainCandidate).answer = .ok .delivered ∧
      ((start [] Log.fresh Instant.earliest (some (.rejected ""))).deliver loudCandidate).answer = .ok .delivered ∧
      ((start [] Log.fresh Instant.epoch none).deliver plainCandidate).desk.reported =
        ((start [] Log.fresh Instant.earliest (some (.rejected ""))).deliver loudCandidate).desk.reported := by
  have hplain := delivered_of_valid fault?_plain Instant.epoch none
  have hloud := delivered_of_valid fault?_loud Instant.earliest (some (.rejected ""))
  have hcategory : Signal.IsCategory plainCandidate.segment "news" :=
    ⟨"news", ⟨by decide, Or.inl rfl⟩, by decide⟩
  have hcategory' : Signal.IsCategory loudCandidate.segment "news" :=
    ⟨" NEWS!", ⟨by decide, Or.inr ⟨"Sport", by decide⟩⟩, by decide⟩
  obtain ⟨s₁, s₂, hs₁, hs₂, hsame, -⟩ := signals_disclose_surface_and_category.1 _ _ _ _ hplain hloud
  obtain rfl := hsame.mpr ⟨rfl, "news", hcategory, hcategory'⟩
  exact ⟨hplain, hloud, hs₁.trans hs₂.symm⟩

end Desk
end AdAdmission
