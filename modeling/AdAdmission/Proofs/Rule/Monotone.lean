import Mathlib
import AdAdmission.Proofs.Log.Freshness
import AdAdmission.Proofs.Rule.Meaning

/-! Denials while the history grows and time passes. One more event can only add to what a cap counts, and it takes
    nothing from what makes a wait or an exclusion apply; at an earlier instant the windows reach further back
    and every event is less far away. So a denial stands when more is recorded, and what is denied later is
    denied before, though it may be another rule that denies it. -/

namespace AdAdmission
namespace Rule
variable {r : Rule} {c : Candidate} {l l' : List Event} {t₁ t₂ : Instant}

theorem Forbids.mono (h : r.Forbids c l t₁) (hs : l.Sublist l') : r.Forbids c l' t₁ := by
  cases r with
  | perWindowCap => exact le_trans h hs.countP_le
  | perAdCap => exact le_trans h hs.countP_le
  | perCreativeSetCap => exact le_trans h hs.countP_le
  | minimumInterval =>
    obtain ⟨e, he, hrest⟩ := h
    exact ⟨e, hs.subset he, hrest⟩
  | conversionExclusion =>
    obtain ⟨e, he, hcounts⟩ := h
    exact ⟨e, hs.subset he, hcounts⟩

/-- At an earlier instant a window holds no fewer events. -/
theorem countP_earlier (hle : t₁.moment ≤ t₂.moment) (q : Event → Prop) [DecidablePred q] (width : Int) :
    (l.countP fun e => q e ∧ t₂.moment - width ≤ e.timestamp.moment) ≤
      l.countP fun e => q e ∧ t₁.moment - width ≤ e.timestamp.moment := by
  refine List.countP_mono_left fun e _ hin => ?_
  rw [decide_eq_true_eq] at hin ⊢
  exact ⟨hin.1, by omega⟩

theorem Forbids.earlier (h : r.Forbids c l t₂) (hle : t₁.moment ≤ t₂.moment) : r.Forbids c l t₁ := by
  cases r with
  | perWindowCap => exact le_trans h (countP_earlier hle _ _)
  | perAdCap => exact le_trans h (countP_earlier hle _ _)
  | perCreativeSetCap => exact le_trans h (countP_earlier hle _ _)
  | minimumInterval =>
    obtain ⟨e, he, hcounts, hyoung⟩ := h
    exact ⟨e, he, hcounts, by omega⟩
  | conversionExclusion => exact h

end Rule

namespace Chain
open History

theorem ne_allowed_iff {v : Verdict} : v ≠ .allowed ↔ ∃ d, v = .denied d := by
  cases v <;> simp

/-- A chain denies when one of its rules governs the candidate and the recorded events forbid it. -/
theorem denied_iff {chain : Chain} {c : Candidate} {l : List Event} {now : Instant} (h : Chronological l)
    (hleap : ∀ e ∈ l, ¬e.timestamp.InLeap) (hnow : ¬now.InLeap) :
    (∃ d, chain.evaluate c (ofList l) now = .denied d) ↔
      ∃ r ∈ chain, r.rule.appliesTo c.kind = true ∧ r.rule.Forbids c l now := by
  rw [← ne_allowed_iff, Ne, evaluate_eq_allowed_iff]
  simp only [Rule.decide_eq_allowed_iff h hleap hnow]
  push Not
  exact Iff.rfl

/-- On a log that was opened on some store, after whatever was done to it, and while no leap second is involved: what
    a chain denies at some instant it denies at every earlier one, so that what it admits it goes on to admit;
    and what it denies it denies as well after any events have been appended. -/
theorem denial_persists {log : Log} (h : log.Reachable) (hleap : ∀ e ∈ log.history.events.toList, ¬e.timestamp.InLeap)
    (chain : Chain) (c : Candidate) :
    (∀ t₁ t₂ : Instant, ¬t₁.InLeap → ¬t₂.InLeap → t₁ ≤ t₂ →
      ((∃ d, chain.evaluate c log.history t₂ = .denied d) → ∃ d, chain.evaluate c log.history t₁ = .denied d) ∧
      (chain.evaluate c log.history t₁ = .allowed → chain.evaluate c log.history t₂ = .allowed)) ∧
    ∀ ops log', Log.Operation.reset ∉ ops → log.performAll ops = log' →
      (∀ e ∈ log'.history.events.toList, ¬e.timestamp.InLeap) → ∀ now : Instant, ¬now.InLeap →
        (∃ d, chain.evaluate c log.history now = .denied d) →
          ∃ d, chain.evaluate c log'.history now = .denied d := by
  obtain ⟨events, hholds⟩ := h.exists_holds
  rw [hholds.history, events_ofList] at hleap
  rw [hholds.history]
  have hchron := hholds.chronological
  constructor
  · intro t₁ t₂ ht₁ ht₂ hle
    have hback : (∃ d, chain.evaluate c (ofList events) t₂ = .denied d) →
        ∃ d, chain.evaluate c (ofList events) t₁ = .denied d := by
      rw [denied_iff hchron hleap ht₂, denied_iff hchron hleap ht₁]
      rintro ⟨r, hr, happlies, hforbids⟩
      exact ⟨r, hr, happlies, hforbids.earlier ((Instant.le_iff_moment ht₁ ht₂).mp hle)⟩
    refine ⟨hback, fun hallowed => ?_⟩
    by_contra hdenied
    exact ne_allowed_iff.mpr (hback (ne_allowed_iff.mp hdenied)) hallowed
  · rintro ops _ hkeep rfl hleap' now hnow hdenied
    obtain ⟨new, hnew, -⟩ := Log.Continues.run hkeep log events
    have hholds' := hholds.performAll ops
    rw [hnew] at hholds'
    rw [hholds'.history, events_ofList] at hleap'
    rw [denied_iff hchron hleap hnow] at hdenied
    rw [hholds'.history, denied_iff hholds'.chronological hleap' hnow]
    obtain ⟨r, hr, happlies, hforbids⟩ := hdenied
    exact ⟨r, hr, happlies, hforbids.mono (List.sublist_append_left events new)⟩

/-- An hour between any two views. -/
def hourBetween : NamedRule := ⟨"wait", .minimumInterval 3600 none .viewed⟩

/-- A view at the end of time. -/
def lastView : Event := { Log.epochView "last" with timestamp := Instant.latest }

/-- A view of 1970 denies an ad at its own instant. So the ad is denied at the beginning of time, when the view is
    yet to come, and it is still denied in 1970 when a view at the end of time has become the latest one. -/
theorem denial_before_and_after : ∃ log log', Log.fresh.performAll [.append (Log.epochView "ad")] = log ∧
    log.performAll [.append lastView] = log' ∧ log'.size = 2 ∧
      (∃ d, evaluate [hourBetween] Desk.plainCandidate log.history Instant.epoch = .denied d) ∧
      (∃ d, evaluate [hourBetween] Desk.plainCandidate log.history Instant.earliest = .denied d) ∧
      ∃ d, evaluate [hourBetween] Desk.plainCandidate log'.history Instant.epoch = .denied d := by
  have hleap : ∀ e ∈ [Log.epochView "ad"], ¬e.timestamp.InLeap := by decide
  have hleap' : ∀ e ∈ [Log.epochView "ad", lastView], ¬e.timestamp.InLeap := by decide
  have hkeep : Log.Operation.reset ∉ [Log.Operation.append lastView] := by simp
  have h := denial_persists (Log.reachable_fresh [.append (Log.epochView "ad")]) hleap [hourBetween]
    Desk.plainCandidate
  have hdenied : ∃ d, evaluate [hourBetween] Desk.plainCandidate
      (Log.fresh.performAll [.append (Log.epochView "ad")]).history Instant.epoch = .denied d := ⟨_, rfl⟩
  refine ⟨_, _, rfl, rfl, rfl, hdenied, ?_, ?_⟩
  · exact (h.1 Instant.earliest Instant.epoch (by decide) (by decide) (by decide)).1 hdenied
  · exact h.2 [.append lastView] _ hkeep rfl hleap' Instant.epoch (by decide) hdenied

end Chain
end AdAdmission
