import Mathlib
import AdAdmission.Proofs.Delivery.Steps
import AdAdmission.Proofs.Rule.Decision

/-! What a verdict depends on. A rule asks the history for a count or for the latest event: of the surfaces it
    is scoped to, of the candidate's ad, or of the candidate's campaign. So events of other surfaces, ads
    and campaigns have no say while every rule that looks at surfaces is scoped to one, and the order in
    which the events of different surfaces were recorded has none whatever the rules. -/

namespace AdAdmission

/-! ### What the answers of a history depend on -/

namespace History

theorem countSince_congr {h₁ h₂ : History} {kind : Option AdKind}
    (h : ∀ k ∈ scope kind, h₁.ofKind k = h₂.ofKind k) (confirmation : Option ConfirmationKind) (since : Instant) :
    h₁.countSince kind confirmation since = h₂.countSince kind confirmation since := by
  rw [countSince, countSince, List.flatMap_congr fun k hk => by rw [h k hk]]

theorem mostRecent?_congr {h₁ h₂ : History} {kind : Option AdKind}
    (h : ∀ k ∈ scope kind, h₁.ofKind k = h₂.ofKind k) (confirmation : Option ConfirmationKind) :
    h₁.mostRecent? kind confirmation = h₂.mostRecent? kind confirmation := by
  rw [mostRecent?, mostRecent?, List.filterMap_congr fun k hk => by rw [h k hk]]

end History

/-! ### What a rule asks -/

namespace Rule

/-- The rule asks about the events of all surfaces that the scope covers. -/
def LooksAt (scope : Option AdKind) : Rule → Prop
  | perWindowCap _ _ s _ => s = scope
  | minimumInterval _ s _ => s = scope
  | _ => False

theorem scope_of_looksAt {r : Rule} {s : Option AdKind} (h : r.LooksAt s) : r.scope = s := by
  cases r with
  | perWindowCap => exact h
  | minimumInterval => exact h
  | perAdCap => cases h
  | perCreativeSetCap => cases h
  | conversionExclusion => cases h

/-- A rule that looks at one surface alone, and governs the candidates of a surface, looks at that one. -/
theorem eq_some_of_looksAt {r : Rule} {s : Option AdKind} {kind : AdKind} (h : r.LooksAt s) (hscoped : ¬r.LooksAt none)
    (happlies : r.appliesTo kind = true) : s = some kind := by
  rw [appliesTo, scope_of_looksAt h] at happlies
  cases s with
  | none => exact absurd h hscoped
  | some k => rw [beq_iff_eq.mp happlies]

/-- The histories agree on all that a rule can ask about a candidate. -/
structure Agree (r : Rule) (c : Candidate) (h₁ h₂ : History) : Prop where
  count : ∀ scope, r.LooksAt scope → ∀ counted since,
    h₁.countSince scope (some counted) since = h₂.countSince scope (some counted) since
  recent : ∀ scope, r.LooksAt scope → ∀ counted,
    h₁.mostRecent? scope (some counted) = h₂.mostRecent? scope (some counted)
  ad : ∀ counted since, h₁.countForAdSince c.adIdentifier (some counted) since =
    h₂.countForAdSince c.adIdentifier (some counted) since
  set : ∀ counted since, h₁.countForSetSince c.creativeSetId (some counted) since =
    h₂.countForSetSince c.creativeSetId (some counted) since

theorem Agree.judge_eq {r : Rule} {c : Candidate} {h₁ h₂ : History} (h : r.Agree c h₁ h₂) (now : Instant) :
    r.judge c h₁ now = r.judge c h₂ now := by
  cases r with
  | perWindowCap => rw [judge, judge, h.count _ rfl]
  | minimumInterval => rw [judge, judge, h.recent _ rfl]
  | perAdCap => rw [judge, judge, h.ad]
  | perCreativeSetCap => rw [judge, judge, h.set]
  | conversionExclusion => rw [judge, judge, h.ad]

theorem decide_congr {r : Rule} {c : Candidate} {h₁ h₂ : History} (h : r.appliesTo c.kind = true → r.Agree c h₁ h₂)
    (now : Instant) : r.decide c h₁ now = r.decide c h₂ now := by
  rw [decide, decide]
  split
  · rename_i happlies
    exact (h happlies).judge_eq now
  · rfl

end Rule

theorem Chain.evaluate_congr {chain : Chain} {c : Candidate} {h₁ h₂ : History} {now : Instant}
    (h : ∀ r ∈ chain, r.rule.decide c h₁ now = r.rule.decide c h₂ now) :
    chain.evaluate c h₁ now = chain.evaluate c h₂ now := by
  induction chain with
  | nil => rfl
  | cons first rest ih =>
    obtain ⟨hfirst, hrest⟩ := List.forall_mem_cons.mp h
    rw [evaluate, evaluate, hfirst, ih hrest]

/-! ### Events that concern a candidate -/

/-- The event is of the candidate's surface, of its ad or of its campaign. -/
def Event.concerns (e : Event) (c : Candidate) : Bool :=
  e.adKind == c.kind || e.adIdentifier == c.adIdentifier || e.creativeSetId == c.creativeSetId

namespace History
variable {c : Candidate} {l₁ l₂ : List Event}

theorem filter_eq_of_concerns (h : l₁.filter (·.concerns c) = l₂.filter (·.concerns c)) {p : Event → Bool}
    (hp : ∀ e, p e = true → e.concerns c = true) : l₁.filter p = l₂.filter p := by
  have hsub : ∀ l : List Event, (l.filter (·.concerns c)).filter p = l.filter p := fun l => by
    rw [List.filter_filter]
    refine List.filter_congr fun e _ => ?_
    cases hpe : p e with
    | false => rfl
    | true => rw [hp e hpe, Bool.and_true]
  rw [← hsub l₁, h, hsub l₂]

/-- Histories with the same events that concern a candidate agree on what a rule asks that looks at no more than
    one surface. -/
theorem agree_of_concerns (h : l₁.filter (·.concerns c) = l₂.filter (·.concerns c)) {r : Rule}
    (hscoped : ¬r.LooksAt none) (happlies : r.appliesTo c.kind = true) : r.Agree c (ofList l₁) (ofList l₂) := by
  have hkind : (ofList l₁).ofKind c.kind = (ofList l₂).ofKind c.kind := by
    rw [ofKind_ofList, ofKind_ofList]
    exact filter_eq_of_concerns h fun e he => by rw [Event.concerns, he, Bool.true_or, Bool.true_or]
  have had : (ofList l₁).ofAd c.adIdentifier = (ofList l₂).ofAd c.adIdentifier := by
    rw [ofAd_ofList, ofAd_ofList]
    exact filter_eq_of_concerns h fun e he => by rw [Event.concerns, he, Bool.or_true, Bool.true_or]
  have hset : (ofList l₁).ofSet c.creativeSetId = (ofList l₂).ofSet c.creativeSetId := by
    rw [ofSet_ofList, ofSet_ofList]
    exact filter_eq_of_concerns h fun e he => by rw [Event.concerns, he, Bool.or_true]
  -- The rule governs the candidate, so the one surface it looks at is the candidate's.
  have hscope : ∀ s, r.LooksAt s → ∀ k ∈ scope s, (ofList l₁).ofKind k = (ofList l₂).ofKind k := fun s hs k hk => by
    rw [Rule.eq_some_of_looksAt hs hscoped happlies, scope, List.mem_singleton] at hk
    rw [hk, hkind]
  exact ⟨fun s hs _ => countSince_congr (hscope s hs) _, fun s hs _ => mostRecent?_congr (hscope s hs) _,
    fun _ _ => by rw [countForAdSince, countForAdSince, had], fun _ _ => by rw [countForSetSince, countForSetSince, hset]⟩

/-! ### Surfaces that are interleaved -/

/-- The lists have the same events of each surface, in the same order. -/
def SameByKind (l₁ l₂ : List Event) : Prop :=
  ∀ kind, l₁.filter (fun e => e.adKind == kind) = l₂.filter fun e => e.adKind == kind

/-- The histories answer every query alike. -/
structure SameAnswers (h₁ h₂ : History) : Prop where
  count : ∀ kind confirmation since, h₁.countSince kind confirmation since = h₂.countSince kind confirmation since
  ad : ∀ adIdentifier confirmation since,
    h₁.countForAdSince adIdentifier confirmation since = h₂.countForAdSince adIdentifier confirmation since
  set : ∀ creativeSetId confirmation since,
    h₁.countForSetSince creativeSetId confirmation since = h₂.countForSetSince creativeSetId confirmation since
  recent : ∀ kind confirmation, h₁.mostRecent? kind confirmation = h₂.mostRecent? kind confirmation

theorem SameByKind.countP_eq (h : SameByKind l₁ l₂) (p : Event → Bool) : l₁.countP p = l₂.countP p := by
  -- Every event is of one surface, so the counts of the surfaces add up.
  rw [← countP_kinds l₁, ← countP_kinds l₂]
  simp only [← List.countP_filter, h _]

theorem SameByKind.sameAnswers (h : SameByKind l₁ l₂) : SameAnswers (ofList l₁) (ofList l₂) := by
  have hkind : ∀ kind, (ofList l₁).ofKind kind = (ofList l₂).ofKind kind := fun kind => by
    rw [ofKind_ofList, ofKind_ofList, h kind]
  exact {
    count := fun _ => countSince_congr fun k _ => hkind k
    ad := fun _ _ _ => by rw [countForAdSince_ofList, countForAdSince_ofList, h.countP_eq]
    set := fun _ _ _ => by rw [countForSetSince_ofList, countForSetSince_ofList, h.countP_eq]
    recent := fun _ => mostRecent?_congr fun k _ => hkind k }

theorem SameAnswers.agree {h₁ h₂ : History} (h : SameAnswers h₁ h₂) (r : Rule) (c : Candidate) : r.Agree c h₁ h₂ :=
  ⟨fun scope _ counted => h.count scope (some counted), fun scope _ counted => h.recent scope (some counted),
    fun counted => h.ad _ (some counted), fun counted => h.set _ (some counted)⟩

end History

/-! ### Verdicts -/

namespace Chain

/-- On logs with the same events of a candidate's surface, ad or campaign, in the same order, a chain gives the
    same verdict with the same explanation, when none of its rules looks at all surfaces at once. -/
theorem verdict_ignores_unrelated_events {log₁ log₂ : Log} (h₁ : log₁.Reachable) (h₂ : log₂.Reachable) {c : Candidate}
    (hsame : log₁.history.events.toList.filter (·.concerns c) = log₂.history.events.toList.filter (·.concerns c))
    {chain : Chain} (hscoped : ∀ r ∈ chain, ¬r.rule.LooksAt none) (now : Instant) :
    chain.evaluate c log₁.history now = chain.evaluate c log₂.history now := by
  rw [h₁.history_eq, h₂.history_eq]
  exact evaluate_congr fun r hr => Rule.decide_congr (History.agree_of_concerns hsame (hscoped r hr)) now

/-- A view of another ad, of another surface and another campaign. -/
def otherView : Event := ⟨.promotedContent, .viewed, "other", "campaign", "news", Instant.epoch⟩

/-- A rule that asks for an hour between views on the surface of notifications. -/
def surfaceWait : NamedRule := ⟨"wait", .waitBetween .notification 3600⟩

/-- The other view recorded first makes no difference to the verdict on an ad that has just been viewed. -/
theorem verdict_beside_other_view : ∃ log₁ log₂,
    Log.fresh.performAll [.append otherView, .append (Log.epochView "ad")] = log₁ ∧
    Log.fresh.performAll [.append (Log.epochView "ad")] = log₂ ∧ log₁.size = 2 ∧ log₂.size = 1 ∧
      evaluate [surfaceWait] Desk.plainCandidate log₁.history Instant.epoch =
        evaluate [surfaceWait] Desk.plainCandidate log₂.history Instant.epoch ∧
      evaluate [surfaceWait] Desk.plainCandidate log₂.history Instant.epoch ≠ .allowed := by
  have hsame : [otherView, Log.epochView "ad"].filter (·.concerns Desk.plainCandidate) =
      [Log.epochView "ad"].filter (·.concerns Desk.plainCandidate) := by decide
  have hscoped : ∀ r ∈ [surfaceWait], ¬r.rule.LooksAt none := by
    intro r hr
    obtain rfl := List.mem_singleton.mp hr
    rintro ⟨⟩
  refine ⟨_, _, rfl, rfl, rfl, rfl, ?_, ?_⟩
  · exact verdict_ignores_unrelated_events (Log.reachable_fresh [.append otherView, .append (Log.epochView "ad")])
      (Log.reachable_fresh [.append (Log.epochView "ad")]) hsame hscoped Instant.epoch
  · rintro ⟨⟩

/-- On logs with the same events of each surface in the same order, however those of different surfaces are
    interleaved, every query has the same answer, and every chain gives every candidate the same verdict. -/
theorem answers_ignore_interleaving {log₁ log₂ : Log} (h₁ : log₁.Reachable) (h₂ : log₂.Reachable)
    (hsame : History.SameByKind log₁.history.events.toList log₂.history.events.toList) :
    History.SameAnswers log₁.history log₂.history ∧
      ∀ (chain : Chain) c now, chain.evaluate c log₁.history now = chain.evaluate c log₂.history now := by
  rw [h₁.history_eq, h₂.history_eq]
  refine ⟨hsame.sameAnswers, fun chain c now => ?_⟩
  -- Even a rule that looks at all surfaces has the same answers to go by.
  exact evaluate_congr fun r _ => Rule.decide_congr (fun _ => hsame.sameAnswers.agree r.rule c) now

/-- A view and the other view at one instant, recorded in both orders: the latest of them is the same one. -/
theorem latest_of_two_at_once : ∃ log₁ log₂,
    Log.fresh.performAll [.append (Log.epochView "ad"), .append otherView] = log₁ ∧
    Log.fresh.performAll [.append otherView, .append (Log.epochView "ad")] = log₂ ∧
      log₁.history.events.toList = [Log.epochView "ad", otherView] ∧
      log₂.history.events.toList = [otherView, Log.epochView "ad"] ∧
      log₁.history.mostRecent? none none = log₂.history.mostRecent? none none ∧
      log₂.history.mostRecent? none none = some otherView := by
  refine ⟨_, _, rfl, rfl, rfl, rfl, ?_, rfl⟩
  have h : History.SameByKind [Log.epochView "ad", otherView] [otherView, Log.epochView "ad"] := by
    intro kind
    cases kind <;> rfl
  exact (answers_ignore_interleaving (Log.reachable_fresh [.append (Log.epochView "ad"), .append otherView])
    (Log.reachable_fresh [.append otherView, .append (Log.epochView "ad")]) h).1.recent none none

end Chain
end AdAdmission
