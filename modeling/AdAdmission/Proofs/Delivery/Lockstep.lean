import Mathlib
import AdAdmission.Proofs.Delivery.Exchanges

/-! Display in step with the answers. An action that is answered as delivered shows its candidate once and
    reports one signal of it, and no other action shows or reports anything. Answers depend on the rules,
    the log and the clock alone: neither what was shown before nor a report that fails is noticed. -/

namespace AdAdmission

/-- The candidate that an exchange delivered. -/
def Exchange.delivered? (x : Exchange) : Option Candidate :=
  match x.action, x.answer with
  | .deliver c, .delivery (.ok .delivered) => some c
  | _, _ => none

/-- The signal of an impression of a candidate, which needs a segment. -/
def Candidate.signal? (c : Candidate) : Option Signal := (Segment.ofText? c.segment).map (.impression c.kind)

theorem Candidate.text_of_check {c : Candidate} {segment : Segment} (h : c.check = .ok segment) :
    segment.text = c.segment := by
  have hsegment := Except.ok.inj ((check_of_fault? (fault?_of_check h)).symm.trans h)
  rw [← hsegment]

theorem Candidate.signal?_of_check {c : Candidate} {segment : Segment} (h : c.check = .ok segment) :
    c.signal? = some (.impression c.kind segment) := by
  rw [signal?, Segment.ofText?_eq_some_iff.mpr (text_of_check h)]
  rfl

namespace Desk

/-! ### What is shown and reported -/

/-- From one state to another, the given candidates were shown, and one signal of each was reported. -/
structure Displays (d d' : Desk) (candidates : List Candidate) : Prop where
  shown : d'.shown = d.shown ++ candidates
  reported : d'.reported.map some = d.reported.map some ++ candidates.map Candidate.signal?

namespace Displays
variable {d d' d'' : Desk} {candidates candidates' : List Candidate}

theorem nothing (hs : d'.shown = d.shown) (hr : d'.reported = d.reported) : Displays d d' [] :=
  ⟨by rw [hs, List.append_nil], by rw [hr, List.map_nil, List.append_nil]⟩

theorem display {c : Candidate} {segment : Segment} (hc : c.check = .ok segment) (log : Log) :
    Displays d ({ d with log }.display c segment).1 [c] where
  shown := rfl
  reported := by
    change (d.reported ++ [Signal.impression c.kind segment]).map some = _
    rw [List.map_append, List.map_singleton, List.map_singleton, Candidate.signal?_of_check hc]

theorem reported_eq (h : Displays d d' candidates) :
    d'.reported = d.reported ++ candidates.filterMap Candidate.signal? := by
  simpa using congrArg (List.filterMap id) h.reported

theorem trans (h : Displays d d' candidates) (h' : Displays d' d'' candidates') :
    Displays d d'' (candidates ++ candidates') where
  shown := by rw [h'.shown, h.shown, List.append_assoc]
  reported := by rw [h'.reported, h.reported, List.map_append, List.append_assoc]

end Displays

theorem displays_deliver (d : Desk) (c : Candidate) : Displays d (d.deliver c).desk
    (Exchange.delivered? ⟨d.now, .deliver c, .delivery (d.deliver c).answer⟩).toList := by
  have hend := delivery_deliver d c
  generalize d.deliver c = r at hend ⊢
  cases hend with
  | rejected => exact .nothing rfl rfl
  | suppressed => exact .nothing rfl rfl
  | recorded hc => exact .display hc _
  -- A view that is dropped leaves the log as it was, but the ad is shown all the same.
  | dropped hc => exact .display hc d.log
  | unrecorded => exact .nothing rfl rfl

theorem displays_act (d : Desk) (a : Action) :
    Displays d (d.act a).desk (Exchange.delivered? ⟨d.now, a, (d.act a).answer⟩).toList := by
  cases a with
  | deliver c => exact displays_deliver d c
  | confirm c confirmation =>
    have hend := confirmation_confirm d c confirmation
    change Displays d (d.confirm c confirmation).desk []
    generalize d.confirm c confirmation = r at hend ⊢
    cases hend <;> exact .nothing rfl rfl
  | reset =>
    have hend := removal_resetHistory d
    change Displays d d.resetHistory.desk []
    generalize d.resetHistory = r at hend ⊢
    cases hend <;> exact .nothing rfl rfl
  | advance => exact .nothing rfl rfl
  | setClock => exact .nothing rfl rfl
  | setFaults => exact .nothing rfl rfl

/-- A run shows the candidates that its answers tell of as delivered. -/
theorem displays_run (d : Desk) (actions : List Action) :
    Displays d (d.run actions) ((d.exchanges actions).filterMap Exchange.delivered?) := by
  induction actions generalizing d with
  | nil => exact .nothing rfl rfl
  | cons a actions ih =>
    have h := (displays_act d a).trans (ih (d.act a).desk)
    rw [exchanges, List.filterMap_cons, run_cons]
    cases hx : Exchange.delivered? ⟨d.now, a, (d.act a).answer⟩ with
    | none => simpa [hx] using h
    | some c => simpa [hx] using h

/-! ### What answers depend on -/

/-- The desks agree in what answers depend on. They may differ in what they showed and reported before, and
    in whether reports fail. -/
structure Alike (d₁ d₂ : Desk) : Prop where
  chain : d₁.chain = d₂.chain
  log : d₁.log = d₂.log
  now : d₁.now = d₂.now

/-- The results give the same answer and lead to desks that are alike. -/
structure AnsweredAlike {α : Type} (r₁ r₂ : Result α) : Prop where
  answer : r₁.answer = r₂.answer
  desk : Alike r₁.desk r₂.desk

namespace Alike
variable {d₁ d₂ : Desk}

theorem deliver (h : Alike d₁ d₂) (c : Candidate) : AnsweredAlike (d₁.deliver c) (d₂.deliver c) := by
  rw [Desk.deliver, Desk.deliver, h.chain, h.log, h.now]
  cases c.check with
  | error e => exact ⟨rfl, h⟩
  | ok segment =>
    dsimp only
    cases d₂.chain.evaluate c d₂.log.history d₂.now with
    | denied denial => exact ⟨rfl, h⟩
    | allowed =>
      dsimp only
      rw [Event.build?_viewed]
      dsimp only
      cases d₂.log.append (.record c .viewed d₂.now) with
      | ok r => exact ⟨rfl, rfl, rfl, rfl⟩
      | error e =>
        cases e with
        -- The ad is shown without a record: rules, log and clock stay as they were.
        | outOfOrder => exact ⟨rfl, h.chain, h.log, h.now⟩
        | _ => exact ⟨rfl, h⟩

theorem confirm (h : Alike d₁ d₂) (c : Candidate) (confirmation : ConfirmationKind) :
    AnsweredAlike (d₁.confirm c confirmation) (d₂.confirm c confirmation) := by
  rw [Desk.confirm, Desk.confirm, h.chain, h.log, h.now]
  cases c.fault? with
  | some e => exact ⟨rfl, h⟩
  | none =>
    dsimp only
    cases Event.build? c.kind confirmation c d₂.now with
    | none => exact ⟨rfl, h⟩
    | some event =>
      dsimp only
      cases d₂.log.append event with
      | error e => exact ⟨rfl, h⟩
      | ok r => exact ⟨rfl, rfl, rfl, rfl⟩

theorem resetHistory (h : Alike d₁ d₂) : AnsweredAlike d₁.resetHistory d₂.resetHistory := by
  rw [Desk.resetHistory, Desk.resetHistory, h.chain, h.log, h.now]
  cases d₂.log.reset with
  | error e => exact ⟨rfl, h⟩
  | ok r => exact ⟨rfl, rfl, rfl, rfl⟩

theorem act (h : Alike d₁ d₂) (a : Action) : AnsweredAlike (d₁.act a) (d₂.act a) := by
  cases a with
  | deliver c => exact ⟨congrArg Answer.delivery (h.deliver c).answer, (h.deliver c).desk⟩
  | confirm c confirmation =>
    exact ⟨congrArg Answer.confirmation (h.confirm c confirmation).answer, (h.confirm c confirmation).desk⟩
  | reset => exact ⟨congrArg Answer.reset h.resetHistory.answer, h.resetHistory.desk⟩
  | advance span => exact ⟨rfl, h.chain, h.log, congrArg (·.advance span) h.now⟩
  | setClock now => exact ⟨rfl, h.chain, h.log, rfl⟩
  | setFaults faults =>
    exact ⟨rfl, h.chain, congrArg (fun log => { log with backend := { log.backend with faults } }) h.log, h.now⟩

theorem run (h : Alike d₁ d₂) (actions : List Action) : Alike (d₁.run actions) (d₂.run actions) := by
  induction actions generalizing d₁ d₂ with
  | nil => exact h
  | cons a actions ih => exact ih (h.act a).desk

theorem exchanges (h : Alike d₁ d₂) (actions : List Action) : d₁.exchanges actions = d₂.exchanges actions := by
  induction actions generalizing d₁ d₂ with
  | nil => rfl
  | cons a actions ih => rw [Desk.exchanges, Desk.exchanges, h.now, (h.act a).answer, ih (h.act a).desk]

theorem eq_of_displayed (h : Alike d₁ d₂) (hs : d₁.shown = d₂.shown) (hr : d₁.reported = d₂.reported) :
    d₁ = { d₂ with reportFault := d₁.reportFault } := by
  cases d₁
  cases d₂
  obtain ⟨rfl, rfl, rfl⟩ := h
  obtain rfl := hs
  obtain rfl := hr
  rfl

end Alike

theorem reportFault_run (d : Desk) (actions : List Action) : (d.run actions).reportFault = d.reportFault :=
  run_induction (p := fun d' => d'.reportFault = d.reportFault) (fun hm h => by cases hm <;> exact h) rfl actions

/-- Desks that are alike and have shown and reported the same go on to do so, and they still differ in nothing
    but whether reports fail. -/
theorem Alike.run_eq {d₁ d₂ : Desk} (h : Alike d₁ d₂) (hs : d₁.shown = d₂.shown) (hr : d₁.reported = d₂.reported)
    (actions : List Action) : d₁.run actions = { d₂.run actions with reportFault := d₁.reportFault } := by
  have h₁ := displays_run d₁ actions
  have h₂ := displays_run d₂ actions
  have hshown : (d₁.run actions).shown = (d₂.run actions).shown := by
    rw [h₁.shown, h₂.shown, hs, h.exchanges]
  have hreported : (d₁.run actions).reported = (d₂.run actions).reported := by
    rw [h₁.reported_eq, h₂.reported_eq, hr, h.exchanges]
  rw [(h.run actions).eq_of_displayed hshown hreported, reportFault_run]

/-! ### Display and answers in step -/

/-- In every run the shown ads are just those that the answers tell of as delivered, in order, and the signals
    are those of the shown ads, one for each. Whether reports fail changes no answer, and nothing of the log,
    of what is shown and of what is reported. -/
theorem display_in_step_with_answers (chain : Chain) (log : Log) (now : Instant) (fault : Option ReportError)
    (actions : List Action) :
    ((start chain log now fault).run actions).shown =
        ((start chain log now fault).exchanges actions).filterMap Exchange.delivered? ∧
      ((start chain log now fault).run actions).reported.map some =
        ((start chain log now fault).run actions).shown.map Candidate.signal? ∧
      (start chain log now fault).exchanges actions = (start chain log now none).exchanges actions ∧
      (start chain log now fault).run actions =
        { (start chain log now none).run actions with reportFault := fault } := by
  have h := displays_run (start chain log now fault) actions
  have halike : Alike (start chain log now fault) (start chain log now none) := ⟨rfl, rfl, rfl⟩
  refine ⟨h.shown, ?_, halike.exchanges actions, halike.run_eq rfl rfl actions⟩
  rw [h.reported, h.shown]
  rfl

end Desk
end AdAdmission
