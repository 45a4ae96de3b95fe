import Mathlib
import AdAdmission.Proofs.Delivery.Steps
import AdAdmission.Proofs.Rule.Decision

/-! Caps over whole runs. A cap on views looks at the log at one instant, but while the clock does not go
    back and the history is not removed, it bounds the ads shown in every window of its length: each
    shown ad has its view in the log, and when the last ad of a window is shown the log still counts all
    the others. -/

namespace AdAdmission

/-! ### Rules that allow -/

namespace Rule

/-- The rule caps the views of the candidates of a group, within a window of so many seconds. -/
inductive CapsViews : Rule → UInt64 → Cap → (Candidate → Bool) → Prop where
  | surface (window : UInt64) (cap : Cap) (kind : AdKind) :
    CapsViews (.perWindowCap window cap (some kind) .viewed) window cap (·.kind == kind)
  | everything (window : UInt64) (cap : Cap) :
    CapsViews (.perWindowCap window cap none .viewed) window cap fun _ => true
  | ad (window : UInt64) (cap : Cap) (adIdentifier : String) :
    CapsViews (.perAdCap window cap .viewed) window cap (·.adIdentifier == adIdentifier)
  | creativeSet (window : UInt64) (cap : Cap) (creativeSetId : String) :
    CapsViews (.perCreativeSetCap window cap .viewed) window cap (·.creativeSetId == creativeSetId)

/-- A cap that allows a candidate of the group counts fewer views of the group than it caps. -/
theorem countP_lt_of_allowed {r : Rule} {window : UInt64} {cap : Cap} {group : Candidate → Bool}
    (hc : CapsViews r window cap group) {events : List Event} (h : History.Chronological events) {c : Candidate}
    (hg : group c = true) {now : Instant} (ha : r.decide c (History.ofList events) now = .allowed) :
    ∃ p : Event → Bool, (∀ c t, p (.record c .viewed t) = group c) ∧
      events.countP (fun e => windowStart now window ≤ e.timestamp && p e) < cap.count.toNat := by
  cases hc with
  | surface _ _ kind =>
    have happlies : (perWindowCap window cap (some kind) .viewed).appliesTo c.kind = true := by
      rw [appliesTo, scope, Option.all_some, BEq.comm]
      exact hg
    rw [decide_of_appliesTo happlies, judge, decideCap_eq_allowed_iff, History.countSince_ofList h] at ha
    refine ⟨fun e => e.isOf (some kind) (some .viewed), fun c t => ?_, ha⟩
    simp [Event.isOf, Event.record, BEq.comm]
  | everything =>
    rw [decide_of_appliesTo rfl, judge, decideCap_eq_allowed_iff, History.countSince_ofList h] at ha
    exact ⟨fun e => e.isOf none (some .viewed), fun c t => rfl, ha⟩
  | ad _ _ adIdentifier =>
    obtain rfl : c.adIdentifier = adIdentifier := by simpa using hg
    rw [decide_of_appliesTo rfl, judge, decideCap_eq_allowed_iff, History.countForAdSince_ofList] at ha
    refine ⟨fun e => e.isOf none (some .viewed) && e.adIdentifier == c.adIdentifier, fun c t => ?_, ?_⟩
    · simp [Event.isOf, Event.record]
    · simpa only [Bool.and_assoc] using ha
  | creativeSet _ _ creativeSetId =>
    obtain rfl : c.creativeSetId = creativeSetId := by simpa using hg
    rw [decide_of_appliesTo rfl, judge, decideCap_eq_allowed_iff, History.countForSetSince_ofList] at ha
    refine ⟨fun e => e.isOf none (some .viewed) && e.creativeSetId == c.creativeSetId, fun c t => ?_, ?_⟩
    · simp [Event.isOf, Event.record]
    · simpa only [Bool.and_assoc] using ha

end Rule

namespace Desk

/-! ### Shown ads -/

/-- An ad that was shown, and the instant the clock gave. -/
structure Showing where
  now : Instant
  candidate : Candidate

/-- The view of a shown ad. -/
def Showing.view (s : Showing) : Event := .record s.candidate .viewed s.now

/-- The ads shown on the way from one state to the next. -/
def shownBetween (d d' : Desk) : List Showing := (d'.shown.drop d.shown.length).map (⟨d.now, ·⟩)

/-- The ads shown in a run, in order. -/
def showings : Desk → List Action → List Showing
  | _, [] => []
  | d, a :: actions => d.shownBetween (d.act a).desk ++ showings (d.act a).desk actions

/-- In each action of the run the clock does not go back, it is outside leap seconds, and the history is
    not removed. -/
def Steady : Desk → List Action → Prop
  | _, [] => True
  | d, a :: actions =>
    (d.now ≤ (d.act a).desk.now ∧ ¬(d.act a).desk.now.InLeap ∧ (d.act a).answer ≠ .reset (.ok ())) ∧
      Steady (d.act a).desk actions

/-- The shown ads of a group within a window of so many seconds. -/
def within (start : Int) (window : UInt64) (group : Candidate → Bool) (s : Showing) : Bool :=
  start ≤ s.now.moment && s.now.moment ≤ start + window.toNat * 1000000000 && group s.candidate

/-- The views of the shown ads are among the recorded events, none of which is later than the clock. -/
structure Tracked (d : Desk) (past : List Showing) (events : List Event) : Prop where
  holds : d.log.Holds events
  views : (past.map Showing.view).Sublist events
  le_now : ∀ x ∈ events, x.timestamp ≤ d.now
  now_steady : ¬d.now.InLeap
  past_steady : ∀ s ∈ past, ¬s.now.InLeap

/-- A delivery that the rules allow keeps every window within the cap. -/
theorem Tracked.countP_lt {d : Desk} {past : List Showing} {events : List Event} (h : d.Tracked past events)
    {r : Rule} {window : UInt64} {cap : Cap} {group : Candidate → Bool} (hc : r.CapsViews window cap group)
    {c : Candidate} (ha : r.decide c d.log.history d.now = .allowed) {start : Int}
    (hin : within start window group ⟨d.now, c⟩ = true) :
    past.countP (within start window group) < cap.count.toNat := by
  simp only [within, Bool.and_eq_true, decide_eq_true_eq] at hin
  rw [h.holds.history] at ha
  obtain ⟨p, hp, hlt⟩ := Rule.countP_lt_of_allowed hc h.holds.chronological hin.2 ha
  refine lt_of_le_of_lt (le_trans ?_ (h.views.countP_le (p := _))) hlt
  rw [List.countP_map]
  refine List.countP_mono_left fun s hs hwithin => ?_
  simp only [within, Bool.and_eq_true, decide_eq_true_eq] at hwithin
  -- What was shown since the window began is no further back from now than the window is long.
  have hstart : Rule.windowStart d.now window ≤ s.now :=
    (Instant.windowStart_le_iff h.now_steady (h.past_steady s hs) window).mpr (by omega)
  simp only [Function.comp_apply, Showing.view, hp, hwithin.2, Bool.and_true]
  exact decide_eq_true hstart

/-! ### Steps -/

theorem shownBetween_of_eq {d d' : Desk} (h : d'.shown = d.shown) : d.shownBetween d' = [] := by
  rw [shownBetween, h, List.drop_length, List.map_nil]

theorem shownBetween_of_append {d d' : Desk} {c : Candidate} (h : d'.shown = d.shown ++ [c]) :
    d.shownBetween d' = [⟨d.now, c⟩] := by
  rw [shownBetween, h, List.drop_left, List.map_singleton]

theorem now_of_mem_shownBetween {d d' : Desk} {s : Showing} (h : s ∈ d.shownBetween d') : s.now = d.now := by
  obtain ⟨c, -, rfl⟩ := List.mem_map.mp h
  rfl

/-- At the start nothing is shown yet. -/
theorem tracked_start {chain : Chain} {log : Log} {now : Instant} {fault : Option ReportError} {events : List Event}
    (h : log.Holds events) (hpast : ∀ x ∈ log.history.events.toList, x.timestamp ≤ now) (hleap : ¬now.InLeap) :
    (start chain log now fault).Tracked [] events where
  holds := h
  views := List.nil_sublist _
  le_now := by
    rw [h.history, History.events_ofList] at hpast
    exact hpast
  now_steady := hleap
  past_steady := fun s hs => by cases hs

namespace Tracked
variable {d d' : Desk} {past : List Showing} {events : List Event}

/-- Later events and showings of the clock's instant join those before. -/
theorem extend (h : d.Tracked past events) {new : List Showing} {added : List Event}
    (hholds : d'.log.Holds (events ++ added)) (hviews : (new.map Showing.view).Sublist added)
    (hadded : ∀ x ∈ added, x.timestamp = d.now) (hnew : ∀ s ∈ new, s.now = d.now) (hle : d.now ≤ d'.now)
    (hleap : ¬d'.now.InLeap) : d'.Tracked (past ++ new) (events ++ added) where
  holds := hholds
  views := by
    rw [List.map_append]
    exact h.views.append hviews
  le_now := fun x hx => by
    rcases List.mem_append.mp hx with hx | hx
    · exact Instant.le_trans (h.le_now x hx) hle
    · exact hadded x hx ▸ hle
  now_steady := hleap
  past_steady := fun s hs => by
    rcases List.mem_append.mp hs with hs | hs
    · exact h.past_steady s hs
    · rw [hnew s hs]
      exact h.now_steady

/-- An event joins those before, and nothing is shown. -/
theorem extend_event (h : d.Tracked past events) {e : Event} (hholds : d'.log.Holds (events ++ [e]))
    (he : e.timestamp = d.now) (hshown : d'.shown = d.shown) (hle : d.now ≤ d'.now) (hleap : ¬d'.now.InLeap) :
    d'.Tracked (past ++ d.shownBetween d') (events ++ [e]) := by
  rw [shownBetween_of_eq hshown]
  exact h.extend hholds (List.nil_sublist _) (by simpa using he) (by simp) hle hleap

/-- Nothing is shown or recorded. -/
theorem keep (h : d.Tracked past events) (hholds : d'.log.Holds events) (hshown : d'.shown = d.shown)
    (hle : d.now ≤ d'.now) (hleap : ¬d'.now.InLeap) : d'.Tracked (past ++ d.shownBetween d') events := by
  rw [shownBetween_of_eq hshown]
  have hnil : events ++ [] = events := List.append_nil _
  rw [← hnil]
  exact h.extend (hnil.symm ▸ hholds) (List.Sublist.refl _) (by simp) (by simp) hle hleap

/-- While no recorded event is later than the clock, no view is dropped. -/
theorem not_dropped (h : d.Tracked past events) {c : Candidate} {kind : AdKind} {timestamp last : Instant} :
    d.log.append (.record c .viewed d.now) ≠ .error (.outOfOrder kind timestamp last) := fun ha => by
  obtain ⟨x, hx, -, rfl, hlt⟩ := h.holds.exists_later ha
  exact hlt (h.le_now x hx)

theorem step (h : d.Tracked past events) {a : Action} (hm : Move d a d') (hle : d.now ≤ d'.now)
    (hleap : ¬d'.now.InLeap) (hkeep : a = .reset → ∀ r, d.log.reset ≠ .ok r) :
    ∃ events', d'.Tracked (past ++ d.shownBetween d') events' := by
  cases hm with
  | shown _ _ ha =>
    rw [shownBetween_of_append rfl]
    exact ⟨_, h.extend (h.holds.append ha) (List.Sublist.refl _) (by simp [Event.record]) (by simp) hle hleap⟩
  | dropped _ _ ha => exact absurd ha h.not_dropped
  | confirmed ha => exact ⟨_, h.extend_event (h.holds.append ha) rfl rfl hle hleap⟩
  | removed hr => exact absurd hr (hkeep rfl _)
  | refused => exact ⟨_, h.keep h.holds rfl hle hleap⟩
  | advance => exact ⟨_, h.keep h.holds rfl hle hleap⟩
  | setClock => exact ⟨_, h.keep h.holds rfl hle hleap⟩
  | setFaults => exact ⟨_, h.keep ⟨h.holds.history, h.holds.chronological⟩ rfl hle hleap⟩

/-- An action shows nothing, or a candidate that the rules allow. -/
theorem shown_eq_or_allowed (h : d.Tracked past events) {a : Action} (hm : Move d a d') : d'.shown = d.shown ∨
    ∃ c, d'.shown = d.shown ++ [c] ∧ d.chain.evaluate c d.log.history d.now = .allowed := by
  cases hm with
  | shown _ hv => exact Or.inr ⟨_, rfl, hv⟩
  | dropped _ _ ha => exact absurd ha h.not_dropped
  | confirmed => exact Or.inl rfl
  | removed => exact Or.inl rfl
  | refused => exact Or.inl rfl
  | advance => exact Or.inl rfl
  | setClock => exact Or.inl rfl
  | setFaults => exact Or.inl rfl

/-- One action keeps a window within the cap. -/
theorem countP_step (h : d.Tracked past events) {a : Action} (hm : Move d a d') {r : NamedRule} (hr : r ∈ d.chain)
    {window : UInt64} {cap : Cap} {group : Candidate → Bool} (hc : r.rule.CapsViews window cap group) {start : Int}
    (hcap : past.countP (within start window group) ≤ cap.count.toNat) :
    (past ++ d.shownBetween d').countP (within start window group) ≤ cap.count.toNat := by
  rcases h.shown_eq_or_allowed hm with hshown | ⟨c, hshown, hv⟩
  · rwa [shownBetween_of_eq hshown, List.append_nil]
  · rw [shownBetween_of_append hshown, List.countP_append, List.countP_singleton]
    split
    · rename_i hin
      exact h.countP_lt hc (Chain.evaluate_eq_allowed_iff.mp hv r hr) hin
    · exact hcap

/-! ### Runs -/

theorem answer_reset {r : Log × Notice} (hr : d.log.reset = .ok r) : (d.act .reset).answer = .reset (.ok ()) := by
  simp [act, resetHistory, hr]

/-- What every action keeps while the showings are tracked, a steady run keeps. -/
theorem run_induction {p : Desk → List Showing → List Event → Prop}
    (hstep : ∀ {d past events a events'}, d.Tracked past events →
      (d.act a).desk.Tracked (past ++ d.shownBetween (d.act a).desk) events' → p d past events →
        p (d.act a).desk (past ++ d.shownBetween (d.act a).desk) events')
    (h : d.Tracked past events) (hp : p d past events) {actions : List Action} (hsteady : d.Steady actions) :
    ∃ events', p (d.run actions) (past ++ d.showings actions) events' := by
  induction actions generalizing d past events with
  | nil =>
    rw [showings, List.append_nil]
    exact ⟨events, hp⟩
  | cons a actions ih =>
    obtain ⟨⟨hle, hleap, hanswer⟩, hrest⟩ := hsteady
    have hkeep : a = .reset → ∀ r, d.log.reset ≠ .ok r := by
      rintro rfl r hreset
      exact hanswer (answer_reset hreset)
    obtain ⟨events', h'⟩ := h.step (move_act d a) hle hleap hkeep
    rw [showings, ← List.append_assoc]
    exact ih h' (hstep h h' hp) hrest

theorem countP_run (h : d.Tracked past events) {actions : List Action} (hsteady : d.Steady actions) {r : NamedRule}
    (hr : r ∈ d.chain) {window : UInt64} {cap : Cap} {group : Candidate → Bool}
    (hc : r.rule.CapsViews window cap group) {start : Int}
    (hcap : past.countP (within start window group) ≤ cap.count.toNat) :
    (past ++ d.showings actions).countP (within start window group) ≤ cap.count.toNat := by
  obtain ⟨-, -, hall⟩ := h.run_induction
    (p := fun d past _ => r ∈ d.chain ∧ past.countP (within start window group) ≤ cap.count.toNat)
    (fun {d _ _ a _} h _ ⟨hr, hcap⟩ =>
      ⟨(move_act d a).chain.symm ▸ hr, h.countP_step (move_act d a) hr hc hcap⟩) ⟨hr, hcap⟩ hsteady
  exact hall

end Tracked

/-- On an opened log whose events are not later than the clock, every cap on views bounds the ads shown in
    every window of its length, in every run in which the clock does not go back and the history is not
    removed. -/
theorem cap_bounds_every_window {b : Backend} {log : Log} {opened : Notice} (ho : Log.open? b = .ok (log, opened))
    {chain : Chain} {now : Instant} {fault : Option ReportError} (hleap : ¬now.InLeap)
    (hpast : ∀ x ∈ log.history.events.toList, x.timestamp ≤ now) {actions : List Action}
    (hsteady : (start chain log now fault).Steady actions) {r : NamedRule} (hr : r ∈ chain) {window : UInt64}
    {cap : Cap} {group : Candidate → Bool} (hc : r.rule.CapsViews window cap group) (first : Int) :
    ((start chain log now fault).showings actions).countP (within first window group) ≤ cap.count.toNat := by
  obtain ⟨events, hholds⟩ := Log.holds_of_open? ho
  have h : (start chain log now fault).Tracked [] events := tracked_start hholds hpast hleap
  exact h.countP_run hsteady hr hc (Nat.zero_le _)

theorem one_pos : 0 < (1 : UInt32).toNat := by decide

/-- A rule that caps the views of an ad at one in an hour. -/
def hourlyRule : NamedRule := ⟨"ad", .perAdCap 3600 ⟨1, one_pos⟩ .viewed⟩

/-- Under that rule an ad is asked for twice at one instant, and shown just once. -/
theorem cap_bounds_first_hour : ∃ log opened, Log.open? ⟨Store.empty, Faults.none⟩ = .ok (log, opened) ∧
    ((start [hourlyRule] log Instant.epoch none).showings
      [.deliver plainCandidate, .deliver plainCandidate]).countP (within 0 3600 (·.adIdentifier == "ad")) = 1 := by
  have hpast : ∀ x ∈ Log.fresh.history.events.toList, x.timestamp ≤ Instant.epoch := fun x hx => by cases hx
  have hsteady : (start [hourlyRule] Log.fresh Instant.epoch none).Steady
      [.deliver plainCandidate, .deliver plainCandidate] := by
    simp only [Steady, act, now_deliver]
    exact ⟨⟨Instant.le_refl _, by decide, by rintro ⟨⟩⟩, ⟨Instant.le_refl _, by decide, by rintro ⟨⟩⟩, trivial⟩
  have hc : hourlyRule.rule.CapsViews 3600 ⟨1, one_pos⟩ (·.adIdentifier == "ad") := .ad _ _ _
  have hle := cap_bounds_every_window Log.open?_empty (by decide) hpast hsteady (List.mem_singleton_self _) hc 0
  have hshown : ((start [hourlyRule] Log.fresh Instant.epoch none).act (.deliver plainCandidate)).desk.shown =
      [] ++ [plainCandidate] := by
    simp only [act, deliver, check_plain]
    rfl
  have hfirst : ⟨Instant.epoch, plainCandidate⟩ ∈ (start [hourlyRule] Log.fresh Instant.epoch none).showings
      [.deliver plainCandidate, .deliver plainCandidate] := by
    rw [showings, shownBetween_of_append hshown]
    exact List.mem_cons_self
  exact ⟨_, _, Log.open?_empty, Nat.le_antisymm hle (List.countP_pos_iff.mpr ⟨_, hfirst, by decide⟩)⟩

end Desk
end AdAdmission
