import Mathlib
import AdAdmission.Proofs.Delivery.Steps
import AdAdmission.Proofs.Rule.Decision
import AdAdmission.Proofs.RuleSet.Validation

/-! Verdicts of chains. A chain admits what all of its rules allow, so the order of the rules does not matter to
    that. It matters to the report: the verdict names the denying rule at the smallest position, and a
    chain that goes on after another has a say only where the other one admits. In the chain of a valid
    rule set the name that is reported belongs to one rule only. -/

namespace AdAdmission

/-- The denial that a rule brings against a candidate, if it denies. -/
def NamedRule.denial? (r : NamedRule) (c : Candidate) (h : History) (now : Instant) : Option Denial :=
  match r.rule.decide c h now with
  | .allowed => none
  | .denied detail => some ⟨r.name, detail⟩

namespace Chain
variable {chain other : Chain} {c : Candidate} {h : History} {now : Instant} {d : Denial}

theorem denial?_eq_none_iff {r : NamedRule} : r.denial? c h now = none ↔ r.rule.decide c h now = .allowed := by
  rw [NamedRule.denial?]
  cases r.rule.decide c h now <;> simp

theorem denial?_eq_some_iff {r : NamedRule} : r.denial? c h now = some d ↔
    r.name = d.rule ∧ r.rule.decide c h now = .denied d.detail := by
  obtain ⟨rule, detail⟩ := d
  rw [NamedRule.denial?]
  cases r.rule.decide c h now <;> simp

theorem evaluate_eq : chain.evaluate c h now = (chain.findSome? (·.denial? c h now)).elim .allowed .denied := by
  induction chain with
  | nil => rfl
  | cons r rest ih =>
    rw [evaluate, List.findSome?_cons, NamedRule.denial?]
    cases r.rule.decide c h now with
    | allowed => exact ih
    | denied detail => rfl

theorem evaluate_eq_denied_iff_findSome? :
    chain.evaluate c h now = .denied d ↔ chain.findSome? (·.denial? c h now) = some d := by
  rw [evaluate_eq]
  cases chain.findSome? (·.denial? c h now) <;> simp

/-- The rule at this position brings the denial, and those at smaller positions allow. -/
structure FirstDenial (chain : Chain) (c : Candidate) (h : History) (now : Instant) (i : ℕ) (d : Denial) : Prop where
  denies : ∃ r, chain[i]? = some r ∧ r.name = d.rule ∧ r.rule.decide c h now = .denied d.detail
  earlier : ∀ j < i, ∀ q, chain[j]? = some q → q.rule.decide c h now = .allowed

theorem evaluate_eq_denied_iff : chain.evaluate c h now = .denied d ↔ ∃ i, chain.FirstDenial c h now i d := by
  rw [evaluate_eq_denied_iff_findSome?, First.findSome?_eq_some_iff]
  simp only [denial?_eq_some_iff, denial?_eq_none_iff]
  constructor
  · rintro ⟨i, hdenies, hearlier⟩
    exact ⟨i, hdenies, hearlier⟩
  · rintro ⟨i, hdenies, hearlier⟩
    exact ⟨i, hdenies, hearlier⟩

theorem evaluate_append : (chain ++ other).evaluate c h now =
    match chain.evaluate c h now with
    | .denied d => .denied d
    | .allowed => other.evaluate c h now := by
  have hchain : chain.evaluate c h now = _ := evaluate_eq
  have hother : other.evaluate c h now = _ := evaluate_eq
  rw [evaluate_eq, List.findSome?_append, hchain, hother]
  cases chain.findSome? (·.denial? c h now) <;> rfl

theorem evaluate_eq_allowed_iff_of_perm (hperm : chain.Perm other) :
    chain.evaluate c h now = .allowed ↔ other.evaluate c h now = .allowed := by
  rw [evaluate_eq_allowed_iff, evaluate_eq_allowed_iff]
  exact ⟨fun hall r hr => hall r (hperm.mem_iff.mpr hr), fun hall r hr => hall r (hperm.mem_iff.mp hr)⟩

/-- Where no two rules have the same name, a name belongs to one position at most. -/
theorem position_unique (hnames : (chain.map (·.name)).Nodup) {name : String} {i j : ℕ}
    (hi : chain[i]?.map NamedRule.name = some name) (hj : chain[j]?.map NamedRule.name = some name) : i = j := by
  rw [← List.getElem?_map] at hi hj
  obtain ⟨hlt, -⟩ := List.getElem?_eq_some_iff.mp hi
  exact (List.getElem?_inj hlt hnames).mp (hi.trans hj.symm)

theorem existsUnique_position (hnames : (chain.map (·.name)).Nodup) (hdenied : chain.evaluate c h now = .denied d) :
    ∃! i : ℕ, chain[i]?.map NamedRule.name = some d.rule := by
  obtain ⟨i, ⟨r, hr, hname, -⟩, -⟩ := evaluate_eq_denied_iff.mp hdenied
  have hi : chain[i]?.map NamedRule.name = some d.rule := by rw [hr, Option.map_some, hname]
  exact ⟨i, hi, fun j hj => position_unique hnames hj hi⟩

/-- A chain admits a candidate just when each of its rules allows it, and otherwise reports the name and the explanation
    of the denying rule at the smallest position. Of two chains one after the other, the second is asked only if the
    first one admits. Another order of the rules admits the same candidates. In the chain of a valid rule set the
    name that is reported belongs to exactly one position. -/
theorem verdict_is_first_denial (chain : Chain) (c : Candidate) (h : History) (now : Instant) :
    (chain.evaluate c h now = .allowed ↔ ∀ r ∈ chain, r.rule.decide c h now = .allowed) ∧
      (∀ d, chain.evaluate c h now = .denied d ↔ ∃ i, chain.FirstDenial c h now i d) ∧
      (∀ other : Chain, (chain ++ other).evaluate c h now =
        match chain.evaluate c h now with
        | .denied d => .denied d
        | .allowed => other.evaluate c h now) ∧
      (∀ other : Chain, chain.Perm other →
        (chain.evaluate c h now = .allowed ↔ other.evaluate c h now = .allowed)) ∧
      ∀ rules : RuleSet, rules.chain = .ok chain → ∀ d, chain.evaluate c h now = .denied d →
        ∃! i : ℕ, chain[i]?.map NamedRule.name = some d.rule := by
  refine ⟨evaluate_eq_allowed_iff, fun d => evaluate_eq_denied_iff, fun other => evaluate_append,
    fun other => evaluate_eq_allowed_iff_of_perm, fun rules hrules d hdenied => ?_⟩
  obtain ⟨hfault, rfl⟩ := RuleSet.chain_eq_ok_iff.mp hrules
  exact existsUnique_position (RuleSet.fault?_eq_none_iff.mp hfault).distinct hdenied

/-- No ad after its conversion, an hour between views, and one view of an ad in an hour. -/
def threeRules : RuleSet where
  rules := [⟨"exclusion", .conversionExclusion⟩, ⟨"wait", .minimumInterval 3600 none .viewed⟩,
    ⟨"cap", .perAdCap 3600 ⟨1, Nat.one_pos⟩ .viewed⟩]

/-- Right after a view of the ad its conversion is not in the way, so the wait is what is reported. The cap would
    deny too, and does so first when the rules are asked in the opposite order. -/
theorem wait_reported_before_cap : ∃ log chain, Log.fresh.performAll [.append (Log.epochView "ad")] = log ∧
    threeRules.chain = .ok chain ∧
    (∃ d, chain.evaluate Desk.plainCandidate log.history Instant.epoch = .denied d ∧ d.rule = "wait" ∧
      ∃! i : ℕ, chain[i]?.map NamedRule.name = some d.rule) ∧
    (∃ d, evaluate chain.reverse Desk.plainCandidate log.history Instant.epoch = .denied d ∧ d.rule = "cap") ∧
    evaluate chain.reverse Desk.plainCandidate log.history Instant.epoch ≠ .allowed := by
  have hchain : threeRules.chain = .ok threeRules.rules := by decide +kernel
  have h := verdict_is_first_denial threeRules.rules Desk.plainCandidate
    (Log.fresh.performAll [.append (Log.epochView "ad")]).history Instant.epoch
  obtain ⟨d, hdenied, hname⟩ : ∃ d, evaluate threeRules.rules Desk.plainCandidate
      (Log.fresh.performAll [.append (Log.epochView "ad")]).history Instant.epoch = .denied d ∧ d.rule = "wait" :=
    ⟨_, rfl, rfl⟩
  have hposition := h.2.2.2.2 threeRules hchain d hdenied
  refine ⟨_, _, rfl, hchain, ⟨d, hdenied, hname, hposition⟩, ⟨_, rfl, rfl⟩, fun hallowed => ?_⟩
  rw [(h.2.2.2.1 _ (List.reverse_perm _).symm).mpr hallowed] at hdenied
  cases hdenied

end Chain
end AdAdmission
