import Mathlib
import AdAdmission.Chain
import AdAdmission.Proofs.History.Latest

/-! What it takes for a rule to allow, said of the recorded events. An ad is not excluded while it has no
    conversion. A wait for an interval is over when even the latest event that counts is old enough, and
    no event that counts is later than that one. A chain allows what each of its rules allows. -/

namespace AdAdmission
namespace Rule
open History

theorem decide_of_appliesTo {r : Rule} {c : Candidate} (h : r.appliesTo c.kind = true) {history : History}
    {now : Instant} : r.decide c history now = r.judge c history now := if_pos h

theorem appliesTo_iff {r : Rule} {kind : AdKind} : r.appliesTo kind = true ↔ ∀ k ∈ r.scope, k = kind := by
  rw [appliesTo, Option.all_eq_true]
  simp only [beq_iff_eq]
  exact Iff.rfl

theorem decide_of_not_appliesTo {r : Rule} {c : Candidate} (h : r.appliesTo c.kind ≠ true) {history : History}
    {now : Instant} : r.decide c history now = .allowed := if_neg h

theorem decideCap_eq_allowed_iff {subject : String} {count : Nat} {counted : ConfirmationKind} {window : UInt64}
    {cap : Cap} : decideCap subject count counted window cap = .allowed ↔ count < cap.count.toNat := by
  rw [decideCap]
  split
  · simp only [reduceCtorEq, false_iff]
    omega
  · simp only [true_iff]
    omega

theorem conversionExclusion_eq_allowed_iff {l : List Event} {c : Candidate} {now : Instant} :
    conversionExclusion.decide c (ofList l) now = .allowed ↔
      ∀ e ∈ l, e.confirmation = .conversion → e.adIdentifier ≠ c.adIdentifier := by
  rw [decide_of_appliesTo rfl, judge, countForAdSince_ofList]
  -- No instant is before the earliest, so the window leaves nothing out.
  simp only [Instant.earliest_le, Event.isOf, Option.all_none, Option.all_some, decide_true, Bool.true_and]
  constructor
  · intro h e he hconf hid
    rw [if_pos (List.countP_pos_iff.mpr ⟨e, he, by simp [hconf, hid]⟩)] at h
    cases h
  · intro h
    refine if_neg fun hpos => ?_
    obtain ⟨e, he, hboth⟩ := List.countP_pos_iff.mp hpos
    rw [Bool.and_eq_true, beq_iff_eq, beq_iff_eq] at hboth
    exact h e he hboth.1.symm hboth.2

/-- When the wait is over, each event that counts is followed by one, or is one, that is old enough. -/
theorem exists_old_of_allowed {l : List Event} (h : Chronological l) {gap : UInt64} {scope : Option AdKind}
    {counted : ConfirmationKind} {c : Candidate} {now : Instant}
    (happlies : (minimumInterval gap scope counted).appliesTo c.kind = true)
    (ha : (minimumInterval gap scope counted).decide c (ofList l) now = .allowed) {y : Event} (hy : y ∈ l)
    (hp : y.isOf scope (some counted) = true) :
    ∃ x ∈ l, y.timestamp ≤ x.timestamp ∧ (Span.ofSeconds gap).nanos ≤ now.elapsed x.timestamp := by
  obtain ⟨x, hx, hlatest, -, hall⟩ := exists_mostRecent? h hy hp
  refine ⟨x, hx, hall y hy hp, not_lt.mp fun hyoung => ?_⟩
  rw [decide_of_appliesTo happlies, judge, hlatest] at ha
  dsimp only at ha
  rw [if_pos hyoung] at ha
  cases ha

end Rule

theorem Chain.evaluate_eq_allowed_iff {chain : Chain} {c : Candidate} {h : History} {now : Instant} :
    chain.evaluate c h now = .allowed ↔ ∀ r ∈ chain, r.rule.decide c h now = .allowed := by
  induction chain with
  | nil => exact iff_of_true rfl fun r hr => by cases hr
  | cons first rest ih =>
    rw [evaluate, List.forall_mem_cons]
    cases hf : first.rule.decide c h now with
    | denied detail => simp
    | allowed => simpa using ih

end AdAdmission
