import Mathlib
import AdAdmission.Proofs.Delivery.Steps

/-! Runs as their answers tell them. A delivery that shows nothing, a confirmation that is refused and a
    reset that fails leave the whole desk as it was, whatever stopped them. So a run without them ends in
    the same state, and every action that stays in it gets the answer it got before. -/

namespace AdAdmission

/-- The action did what it was asked to do. The clock and the store's failures can always be set. -/
def Answer.succeeded : Answer → Bool
  | .delivery (.ok .delivered) => true
  | .confirmation (.ok _) => true
  | .reset (.ok _) => true
  | .done => true
  | _ => false

/-- An action with its answer and the instant that the clock gave. -/
structure Exchange where
  now : Instant
  action : Action
  answer : Answer

namespace Desk

/-- The exchanges of a run, in order. -/
def exchanges : Desk → List Action → List Exchange
  | _, [] => []
  | d, a :: actions => ⟨d.now, a, (d.act a).answer⟩ :: exchanges (d.act a).desk actions

/-- The actions of a run that succeed in it. -/
def succeeding (d : Desk) (actions : List Action) : List Action :=
  ((d.exchanges actions).filter (·.answer.succeeded)).map (·.action)

theorem run_cons (d : Desk) (a : Action) (actions : List Action) :
    d.run (a :: actions) = (d.act a).desk.run actions := rfl

variable {d : Desk} {a : Action}

/-! ### Failures -/

theorem desk_deliver_of_not_delivered {c : Candidate} (h : (d.deliver c).answer ≠ .ok .delivered) :
    (d.deliver c).desk = d := by
  have hend := delivery_deliver d c
  generalize d.deliver c = r at hend h ⊢
  cases hend with
  | rejected => rfl
  | suppressed => rfl
  | recorded => exact absurd rfl h
  | dropped => exact absurd rfl h
  | unrecorded => rfl

theorem desk_confirm_of_error {c : Candidate} {confirmation : ConfirmationKind} {e : DeliveryError}
    (h : (d.confirm c confirmation).answer = .error e) : (d.confirm c confirmation).desk = d := by
  have hend := confirmation_confirm d c confirmation
  generalize d.confirm c confirmation = r at hend h ⊢
  cases hend with
  | invalid => rfl
  | unsupported => rfl
  | unrecorded => rfl
  | recorded => cases h

theorem desk_resetHistory_of_error {e : DeliveryError} (h : d.resetHistory.answer = .error e) :
    d.resetHistory.desk = d := by
  have hend := removal_resetHistory d
  generalize d.resetHistory = r at hend h ⊢
  cases hend with
  | refused => rfl
  | removed => cases h

/-- Whatever stops an action, it leaves everything as it was. -/
theorem desk_act_of_failed (h : (d.act a).answer.succeeded = false) : (d.act a).desk = d := by
  cases a with
  | deliver c =>
    refine desk_deliver_of_not_delivered fun hok => ?_
    rw [act, hok] at h
    cases h
  | confirm c confirmation =>
    cases hr : (d.confirm c confirmation).answer with
    | error e => exact desk_confirm_of_error hr
    | ok =>
      rw [act, hr] at h
      cases h
  | reset =>
    cases hr : d.resetHistory.answer with
    | error e => exact desk_resetHistory_of_error hr
    | ok =>
      rw [act, hr] at h
      cases h
  | advance => cases h
  | setClock => cases h
  | setFaults => cases h

/-! ### Runs without failures -/

theorem succeeding_cons_of_succeeded (h : (d.act a).answer.succeeded = true) (actions : List Action) :
    d.succeeding (a :: actions) = a :: (d.act a).desk.succeeding actions := by
  rw [succeeding, exchanges, List.filter_cons_of_pos (by simp [h])]
  rfl

theorem succeeding_cons_of_failed (h : (d.act a).answer.succeeded = false) (actions : List Action) :
    d.succeeding (a :: actions) = (d.act a).desk.succeeding actions := by
  rw [succeeding, exchanges, List.filter_cons_of_neg (by simp [h])]
  rfl

theorem run_succeeding (d : Desk) (actions : List Action) : d.run (d.succeeding actions) = d.run actions := by
  induction actions generalizing d with
  | nil => rfl
  | cons a actions ih =>
    cases h : (d.act a).answer.succeeded with
    | true => rw [succeeding_cons_of_succeeded h, run_cons, run_cons, ih]
    | false =>
      rw [succeeding_cons_of_failed h, run_cons, desk_act_of_failed h]
      exact ih d

theorem exchanges_succeeding (d : Desk) (actions : List Action) :
    d.exchanges (d.succeeding actions) = (d.exchanges actions).filter (·.answer.succeeded) := by
  induction actions generalizing d with
  | nil => rfl
  | cons a actions ih =>
    cases h : (d.act a).answer.succeeded with
    | true => rw [succeeding_cons_of_succeeded h, exchanges, exchanges, List.filter_cons_of_pos (by simp [h]), ih]
    | false =>
      rw [succeeding_cons_of_failed h, exchanges, List.filter_cons_of_neg (by simp [h]), desk_act_of_failed h]
      exact ih d

/-- An action that does not succeed changes nothing at all. When every such action is taken out of a run,
    the run ends in the same state, and those that stay are answered as before. -/
theorem failed_actions_leave_no_trace (d : Desk) :
    (∀ a, (d.act a).answer.succeeded = false → (d.act a).desk = d) ∧
      ∀ actions, d.run (d.succeeding actions) = d.run actions ∧
        d.exchanges (d.succeeding actions) = (d.exchanges actions).filter (·.answer.succeeded) :=
  ⟨fun _ => desk_act_of_failed, fun actions => ⟨run_succeeding d actions, exchanges_succeeding d actions⟩⟩

/-- The store cannot write for a while, and an ad is asked for then and once more afterwards. -/
theorem retry_leaves_no_trace : ∃ d,
    (start [] Log.fresh Instant.epoch none).setFaults ⟨some (.io "full"), none, none⟩ = d ∧
      (d.act (.deliver plainCandidate)).answer.succeeded = false ∧ (d.act (.deliver plainCandidate)).desk = d ∧
        d.run [.setFaults Faults.none, .deliver plainCandidate] =
          d.run [.deliver plainCandidate, .setFaults Faults.none, .deliver plainCandidate] := by
  have hfailed : (((start [] Log.fresh Instant.epoch none).setFaults ⟨some (.io "full"), none, none⟩).act
      (.deliver plainCandidate)).answer.succeeded = false := by
    simp only [act, deliver, check_plain]
    rfl
  refine ⟨_, rfl, hfailed, (failed_actions_leave_no_trace _).1 _ hfailed, ?_⟩
  rw [← ((failed_actions_leave_no_trace _).2
    [.deliver plainCandidate, .setFaults Faults.none, .deliver plainCandidate]).1]
  congr 1
  simp only [succeeding, exchanges, act, deliver, check_plain]
  rfl

end Desk
end AdAdmission
