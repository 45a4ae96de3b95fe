import Mathlib
import AdAdmission.Proofs.Delivery.Steps
import AdAdmission.Proofs.Rule.Decision

/-! What rules mean, said of the recorded events and of nanoseconds without bounds. A cap forbids a candidate when
    enough of the events it counts are no further back than its window, a wait when one of them is less than
    its gap ago, and the exclusion when there is one at all. A rule decides by this, although it looks at an
    index, at one event alone, or at a window that is cut short where instants end. -/

namespace AdAdmission

theorem Event.isOf_some_iff {e : Event} {kind : Option AdKind} {counted : ConfirmationKind} :
    e.isOf kind (some counted) = true ↔ (∀ k ∈ kind, e.adKind = k) ∧ e.confirmation = counted := by
  rw [isOf_iff_forall]
  simp only [Option.mem_some_iff, forall_eq']

theorem Event.isOf_none_some_iff {e : Event} {counted : ConfirmationKind} :
    e.isOf none (some counted) = true ↔ e.confirmation = counted := by
  rw [isOf_some_iff]
  exact and_iff_right fun k hk => absurd hk (Option.not_mem_none k)

namespace Rule
open History

/-! ### Meaning -/

/-- The event is one of those that the rule looks for when it judges the candidate. -/
def Counts (r : Rule) (c : Candidate) (e : Event) : Prop :=
  match r with
  | perWindowCap _ _ scope counted => (∀ k ∈ scope, e.adKind = k) ∧ e.confirmation = counted
  | minimumInterval _ scope counted => (∀ k ∈ scope, e.adKind = k) ∧ e.confirmation = counted
  | perAdCap _ _ counted => e.adIdentifier = c.adIdentifier ∧ e.confirmation = counted
  | perCreativeSetCap _ _ counted => e.creativeSetId = c.creativeSetId ∧ e.confirmation = counted
  | conversionExclusion => e.adIdentifier = c.adIdentifier ∧ e.confirmation = .conversion

instance (r : Rule) (c : Candidate) (e : Event) : Decidable (r.Counts c e) :=
  match r with
  | perWindowCap .. => inferInstanceAs (Decidable (_ ∧ _))
  | minimumInterval .. => inferInstanceAs (Decidable (_ ∧ _))
  | perAdCap .. => inferInstanceAs (Decidable (_ ∧ _))
  | perCreativeSetCap .. => inferInstanceAs (Decidable (_ ∧ _))
  | conversionExclusion => inferInstanceAs (Decidable (_ ∧ _))

/-- The rule forbids a candidate that it governs, when these events are recorded. -/
def Forbids (r : Rule) (c : Candidate) (events : List Event) (now : Instant) : Prop :=
  match r with
  | perWindowCap window cap _ _ | perAdCap window cap _ | perCreativeSetCap window cap _ =>
    cap.count.toNat ≤ events.countP fun e =>
      r.Counts c e ∧ now.moment - window.toNat * 1000000000 ≤ e.timestamp.moment
  | minimumInterval gap _ _ =>
    ∃ e ∈ events, r.Counts c e ∧ now.moment - e.timestamp.moment < gap.toNat * 1000000000
  | conversionExclusion => ∃ e ∈ events, r.Counts c e

instance (r : Rule) (c : Candidate) (events : List Event) (now : Instant) : Decidable (r.Forbids c events now) :=
  match r with
  | perWindowCap .. => inferInstanceAs (Decidable (_ ≤ _))
  | perAdCap .. => inferInstanceAs (Decidable (_ ≤ _))
  | perCreativeSetCap .. => inferInstanceAs (Decidable (_ ≤ _))
  | minimumInterval .. => inferInstanceAs (Decidable (∃ e ∈ events, _ ∧ _))
  | conversionExclusion => inferInstanceAs (Decidable (∃ e ∈ events, _))

/-! ### Judgement -/

section
variable {l : List Event} {c : Candidate} {now : Instant}

/-- What stands within a window, counted by the clock or without bounds, is the same number. -/
theorem countP_window (hleap : ∀ e ∈ l, ¬e.timestamp.InLeap) (hnow : ¬now.InLeap) {window : UInt64} {p : Event → Bool}
    {q : Event → Prop} [DecidablePred q] (hpq : ∀ e, p e = true ↔ q e) :
    (l.countP fun e => windowStart now window ≤ e.timestamp && p e) =
      l.countP fun e => q e ∧ now.moment - window.toNat * 1000000000 ≤ e.timestamp.moment := by
  refine List.countP_congr fun e he => ?_
  rw [Bool.and_eq_true, decide_eq_true_eq, decide_eq_true_eq, hpq, and_comm,
    Instant.windowStart_le_iff hnow (hleap e he), sub_le_comm]

theorem countP_window_group (hleap : ∀ e ∈ l, ¬e.timestamp.InLeap) (hnow : ¬now.InLeap) {window : UInt64}
    {counted : ConfirmationKind} (f : Event → String) (x : String) :
    (l.countP fun e => (windowStart now window ≤ e.timestamp && e.isOf none (some counted)) && f e == x) =
      l.countP fun e => (f e = x ∧ e.confirmation = counted) ∧
        now.moment - window.toNat * 1000000000 ≤ e.timestamp.moment := by
  simp only [Bool.and_assoc]
  refine countP_window hleap hnow fun e => ?_
  rw [Bool.and_eq_true, Event.isOf_none_some_iff, beq_iff_eq, and_comm]

theorem minimumInterval_eq_allowed_iff (h : Chronological l) (hleap : ∀ e ∈ l, ¬e.timestamp.InLeap)
    (hnow : ¬now.InLeap) {gap : UInt64} {scope : Option AdKind} {counted : ConfirmationKind} :
    (minimumInterval gap scope counted).judge c (ofList l) now = .allowed ↔
      ¬(minimumInterval gap scope counted).Forbids c l now := by
  rw [judge]
  cases hm : (ofList l).mostRecent? scope (some counted) with
  | none =>
    refine iff_of_true rfl ?_
    rintro ⟨y, hy, hp, -⟩
    exact mostRecent?_eq_none_iff.mp hm y hy (Event.isOf_some_iff.mpr hp)
  | some x =>
    obtain ⟨i, hlast⟩ := exists_isLatest h hm
    have hx := List.mem_of_getElem? hlast.recorded
    -- No event that counts is less far back than the latest of them.
    have hlatest : (minimumInterval gap scope counted).Forbids c l now ↔
        now.moment - x.timestamp.moment < gap.toNat * 1000000000 := by
      constructor
      · rintro ⟨y, hy, hyp, hyoung⟩
        have hle := hlast.greatest y hy (Event.isOf_some_iff.mpr hyp)
        rw [Instant.le_iff_moment (hleap y hy) (hleap x hx)] at hle
        omega
      · exact fun hyoung => ⟨x, hx, Event.isOf_some_iff.mp hlast.asked, hyoung⟩
    rw [hlatest, ← Instant.elapsed_lt_iff hnow (hleap x hx)]
    dsimp only
    split
    · rename_i hyoung
      exact iff_of_false (by rintro ⟨⟩) (not_not_intro hyoung)
    · rename_i hold
      exact iff_of_true rfl hold

/-- A rule that governs a candidate allows it just when it does not forbid it. -/
theorem judge_eq_allowed_iff (h : Chronological l) (hleap : ∀ e ∈ l, ¬e.timestamp.InLeap) (hnow : ¬now.InLeap)
    (r : Rule) : r.judge c (ofList l) now = .allowed ↔ ¬r.Forbids c l now := by
  cases r with
  | perWindowCap window cap scope counted =>
    rw [judge, decideCap_eq_allowed_iff, countSince_ofList h,
      countP_window hleap hnow fun e => Event.isOf_some_iff, ← not_le]
    exact Iff.rfl
  | minimumInterval gap scope counted => exact minimumInterval_eq_allowed_iff h hleap hnow
  | perAdCap window cap counted =>
    rw [judge, decideCap_eq_allowed_iff, countForAdSince_ofList,
      countP_window_group hleap hnow Event.adIdentifier, ← not_le]
    exact Iff.rfl
  | perCreativeSetCap window cap counted =>
    rw [judge, decideCap_eq_allowed_iff, countForSetSince_ofList,
      countP_window_group hleap hnow Event.creativeSetId, ← not_le]
    exact Iff.rfl
  | conversionExclusion =>
    rw [← decide_of_appliesTo rfl, conversionExclusion_eq_allowed_iff]
    constructor
    · rintro hnone ⟨e, he, hid, hconf⟩
      exact hnone e he hconf hid
    · exact fun hnone e he hconf hid => hnone ⟨e, he, hid, hconf⟩

theorem decide_eq_allowed_iff (h : Chronological l) (hleap : ∀ e ∈ l, ¬e.timestamp.InLeap) (hnow : ¬now.InLeap)
    (r : Rule) : r.decide c (ofList l) now = .allowed ↔ (r.appliesTo c.kind = true → ¬r.Forbids c l now) := by
  by_cases happlies : r.appliesTo c.kind = true
  · rw [decide_of_appliesTo happlies, judge_eq_allowed_iff h hleap hnow, forall_prop_of_true happlies]
  · exact iff_of_true (decide_of_not_appliesTo happlies) fun h => absurd h happlies

end

/-! ### Decisions -/

theorem ne_allowed_iff {d : Decision} : d ≠ .allowed ↔ ∃ detail, d = .denied detail := by
  cases d <;> simp

/-- On a log that was opened on some store, after whatever was done to it, and while no leap second is involved, a
    rule that is scoped to another surface allows, and one that governs the candidate denies just when the
    recorded events forbid it. -/
theorem decides_as_declared {log : Log} (h : log.Reachable)
    (hleap : ∀ e ∈ log.history.events.toList, ¬e.timestamp.InLeap) {now : Instant} (hnow : ¬now.InLeap) (r : Rule)
    (c : Candidate) :
    ((∃ k ∈ r.scope, k ≠ c.kind) → r.decide c log.history now = .allowed) ∧
      ((∀ k ∈ r.scope, k = c.kind) →
        ((∃ detail, r.decide c log.history now = .denied detail) ↔
          r.Forbids c log.history.events.toList now)) := by
  obtain ⟨events, hholds⟩ := h.exists_holds
  rw [hholds.history, events_ofList] at hleap ⊢
  have hdecide := decide_eq_allowed_iff (c := c) hholds.chronological hleap hnow r
  constructor
  · rintro ⟨k, hk, hne⟩
    exact decide_of_not_appliesTo fun happlies => hne (appliesTo_iff.mp happlies k hk)
  · intro hscope
    rw [← ne_allowed_iff, Ne, hdecide, forall_prop_of_true (appliesTo_iff.mpr hscope), not_not]

/-- A cap of one event. -/
def singleCap : Cap := ⟨1, Nat.one_pos⟩

/-- A view of 1970 and the end of time are 8210266876799 seconds apart and a little more. A wait that is a second
    longer than that is not over then, but one of just so many seconds is, and the longest window, which begins
    before the first instant, still has the view. A wait of another surface has no say. -/
theorem decisions_at_the_end_of_time : ∃ log, Log.fresh.performAll [.append (Log.epochView "ad")] = log ∧
    (∃ detail, (minimumInterval 8210266876800 none .viewed).decide Desk.plainCandidate log.history Instant.latest =
      .denied detail) ∧
    (¬∃ detail, (minimumInterval 8210266876799 none .viewed).decide Desk.plainCandidate log.history Instant.latest =
      .denied detail) ∧
    (∃ detail, (perAdCap 18446744073709551615 singleCap .viewed).decide Desk.plainCandidate log.history
      Instant.latest = .denied detail) ∧
    (waitBetween .promotedContent 18446744073709551615).decide Desk.plainCandidate log.history Instant.latest =
      .allowed := by
  have hleap : ∀ e ∈ [Log.epochView "ad"], ¬e.timestamp.InLeap := by decide
  have h := decides_as_declared (Log.reachable_fresh [.append (Log.epochView "ad")]) hleap
    (show ¬Instant.latest.InLeap by decide)
  refine ⟨_, rfl, ((h _ _).2 (by decide)).mpr (by decide), fun hdenied => ?_, ((h _ _).2 (by decide)).mpr (by decide),
    (h _ _).1 ⟨.promotedContent, rfl, by decide⟩⟩
  exact absurd (((h _ _).2 (by decide)).mp hdenied) (by decide)

end Rule
end AdAdmission
