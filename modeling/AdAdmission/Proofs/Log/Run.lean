import Mathlib
import AdAdmission.Proofs.Log.Keys
import AdAdmission.Proofs.Log.Opening

/-! Runs of a log. Between opening and closing a log events are appended, the history is removed, and the
    store may begin or cease to fail; an operation that fails leaves the log as it was. Whatever happens,
    the history is that of the events recorded since the last removal, in chronological order for each
    surface, and the entries of the store outside the stem stay as they are. -/

namespace AdAdmission
namespace Log
open History

/-! ### Single operations -/

theorem append_eq_ok_iff {log log' : Log} {e : Event} {notice : Notice} : log.append e = .ok (log', notice) ↔
    precedes? log.history e = none ∧ log.backend.faults.put = none ∧
      log' = ⟨{ log.backend with store := log.backend.store.put (keyOf log.nextSequence) e.encode },
        log.history.record e, following log.nextSequence⟩ ∧
      notice = .eventAppended (keyOf log.nextSequence) e.adKind e.confirmation := by
  cases hp : precedes? log.history e with
  | some last => simp [append, hp]
  | none => cases hf : log.backend.faults.put <;> simp [append, Backend.put, hp, hf, eq_comm]

theorem size_append {log log' : Log} {e : Event} {notice : Notice} (ha : log.append e = .ok (log', notice)) :
    log'.size = log.size + 1 := by
  obtain ⟨-, -, rfl, -⟩ := append_eq_ok_iff.mp ha
  exact Array.size_push e

/-- An event is refused because it is out of order, or else because the store cannot write. -/
theorem append_eq_error_iff {log : Log} {e : Event} {err : LogError} : log.append e = .error err ↔
    (∃ last, precedes? log.history e = some last ∧ err = .outOfOrder e.adKind e.timestamp last) ∨
      precedes? log.history e = none ∧ ∃ fault, log.backend.faults.put = some fault ∧ err = .storageFailure fault := by
  cases hp : precedes? log.history e with
  | some last => simp [append, hp, eq_comm]
  | none => cases hf : log.backend.faults.put <;> simp [append, Backend.put, hp, hf, eq_comm]

/-- Every event has a record, so none is refused for want of one. -/
theorem append_ne_serialization {log : Log} {e : Event} {reason : String} :
    log.append e ≠ .error (.serialization reason) := fun ha => by
  rcases append_eq_error_iff.mp ha with ⟨_, -, ⟨⟩⟩ | ⟨-, _, -, ⟨⟩⟩

theorem append_outOfOrder {log : Log} {e : Event} {kind : AdKind} {timestamp last : Instant}
    (h : log.append e = .error (.outOfOrder kind timestamp last)) :
    precedes? log.history e = some last ∧ kind = e.adKind ∧ timestamp = e.timestamp := by
  rcases append_eq_error_iff.mp h with ⟨_, hp, ⟨⟩⟩ | ⟨-, _, -, ⟨⟩⟩
  exact ⟨hp, rfl, rfl⟩

theorem reset_eq_ok_iff {log log' : Log} {notice : Notice} : log.reset = .ok (log', notice) ↔
    log.backend.faults.clear = none ∧
      log' = ⟨{ log.backend with store := log.backend.store.clear keyStem }, History.empty, 0⟩ ∧
      notice = .historyReset log.history.size := by
  cases hf : log.backend.faults.clear <;> simp [reset, Backend.clear, hf, eq_comm]

/-- The history is that of the given events, in chronological order for each surface. -/
structure Holds (log : Log) (events : List Event) : Prop where
  history : log.history = ofList events
  chronological : Chronological events

theorem holds_of_open? {b : Backend} {log : Log} {notice : Notice} (h : open? b = .ok (log, notice)) :
    ∃ events, log.Holds events := by
  obtain ⟨-, events, -, hchron, rfl, -⟩ := open?_eq_ok_iff.mp h
  exact ⟨events, rfl, hchron⟩

namespace Holds
variable {log log' : Log} {events : List Event}

theorem append (h : log.Holds events) {e : Event} {notice : Notice} (ha : log.append e = .ok (log', notice)) :
    log'.Holds (events ++ [e]) := by
  obtain ⟨hp, -, rfl, -⟩ := append_eq_ok_iff.mp ha
  rw [h.history] at hp
  exact ⟨by rw [h.history, ofList_append], (chronological_append_iff h.chronological).mpr hp⟩

theorem le_of_append (h : log.Holds events) {e : Event} {notice : Notice} (ha : log.append e = .ok (log', notice)) :
    ∀ x ∈ events, x.adKind = e.adKind → x.timestamp ≤ e.timestamp := by
  have hp := (append_eq_ok_iff.mp ha).1
  rw [h.history] at hp
  exact (precedes?_eq_none_iff h.chronological).mp hp

/-- An event that is out of order is before one of its surface. -/
theorem exists_later (h : log.Holds events) {e : Event} {kind : AdKind} {timestamp last : Instant}
    (ha : log.append e = .error (.outOfOrder kind timestamp last)) :
    ∃ x ∈ events, x.adKind = e.adKind ∧ x.timestamp = last ∧ e.timestamp < last := by
  have hp := (append_outOfOrder ha).1
  rw [h.history, precedes?, Option.filter_eq_some_iff] at hp
  obtain ⟨x, hx, hk, hlast⟩ := exists_of_lastTimestamp? hp.1
  exact ⟨x, hx, hk, hlast, of_decide_eq_true hp.2⟩

theorem reset {notice : Notice} (hr : log.reset = .ok (log', notice)) : log'.Holds [] := by
  obtain ⟨-, rfl, -⟩ := reset_eq_ok_iff.mp hr
  exact ⟨rfl, List.Pairwise.nil⟩

theorem unique (h : log.Holds events) {events' : List Event} (h' : log.Holds events') : events = events' := by
  rw [← events_ofList events, ← h.history, h'.history, events_ofList]

theorem size (h : log.Holds events) : log.size = events.length := by
  rw [Log.size, h.history, size_ofList]

end Holds

/-! ### Operations -/

/-- What can happen to a log. -/
inductive Operation where
  | append (e : Event)
  | reset
  | setFaults (faults : Faults)
deriving DecidableEq

/-- A view of the given ad at the beginning of 1970. -/
def epochView (adIdentifier : String) : Event := ⟨.notification, .viewed, adIdentifier, "set", "news", Instant.epoch⟩

/-- The log after an operation, as it was when that fails. -/
def perform (log : Log) : Operation → Log
  | .append e =>
    match log.append e with
    | .ok (log', _) => log'
    | .error _ => log
  | .reset =>
    match log.reset with
    | .ok (log', _) => log'
    | .error _ => log
  | .setFaults faults => { log with backend := { log.backend with faults } }

/-- The log after a run of operations. -/
def performAll (log : Log) (ops : List Operation) : Log := ops.foldl perform log

/-- The events recorded since the last removal, given those recorded before the operation. -/
def recorded (log : Log) (events : List Event) : Operation → List Event
  | .append e => if (log.append e).isOk then events ++ [e] else events
  | .reset => if log.reset.isOk then [] else events
  | .setFaults _ => events

/-- The events recorded since the last removal, given those recorded before the run. -/
def recordedAll : Log → List Event → List Operation → List Event
  | _, events, [] => events
  | log, events, op :: ops => recordedAll (log.perform op) (log.recorded events op) ops

/-- What an operation can do to a log and to the events recorded since the last removal. -/
inductive Step (log : Log) (events : List Event) : Operation → Log → List Event → Prop where
  | appended {e : Event} {log' : Log} {notice : Notice} (h : log.append e = .ok (log', notice)) :
    Step log events (.append e) log' (events ++ [e])
  | removed {log' : Log} {notice : Notice} (h : log.reset = .ok (log', notice)) : Step log events .reset log' []
  | failed (op : Operation) : Step log events op log events
  | setFaults (faults : Faults) :
    Step log events (.setFaults faults) { log with backend := { log.backend with faults } } events

theorem step_perform (log : Log) (events : List Event) (op : Operation) :
    Step log events op (log.perform op) (log.recorded events op) := by
  cases op with
  | append e =>
    rw [perform, recorded]
    cases h : log.append e with
    | error _ => exact .failed _
    | ok r => exact .appended h
  | reset =>
    rw [perform, recorded]
    cases h : log.reset with
    | error _ => exact .failed _
    | ok r => exact .removed h
  | setFaults faults => exact .setFaults faults

/-- What every operation keeps, a run keeps. -/
theorem performAll_induction {p : Log → List Event → Prop}
    (hstep : ∀ {log events op log' events'}, Step log events op log' events' → p log events → p log' events')
    (log : Log) (events : List Event) (h : p log events) (ops : List Operation) :
    p (log.performAll ops) (log.recordedAll events ops) := by
  induction ops generalizing log events with
  | nil => exact h
  | cons op ops ih => exact ih _ _ (hstep (step_perform log events op) h)

/-! ### What runs keep -/

theorem Holds.step {log log' : Log} {events events' : List Event} {op : Operation}
    (hs : Step log events op log' events') (h : log.Holds events) : log'.Holds events' := by
  cases hs with
  | appended ha => exact h.append ha
  | removed hr => exact Holds.reset hr
  | failed => exact h
  | setFaults => exact ⟨h.history, h.chronological⟩

/-- After a run the history is that of the events recorded since the last removal. -/
theorem Holds.performAll {log : Log} {events : List Event} (h : log.Holds events) (ops : List Operation) :
    (log.performAll ops).Holds (log.recordedAll events ops) := performAll_induction Holds.step log events h ops

theorem outside_step {log log' : Log} {events events' : List Event} {op : Operation}
    (hs : Step log events op log' events') :
    log'.backend.store.outside keyStem = log.backend.store.outside keyStem := by
  cases hs with
  | appended ha =>
    obtain ⟨-, -, rfl, -⟩ := append_eq_ok_iff.mp ha
    exact Store.outside_put (beginsWith_keyOf _)
  | removed hr =>
    obtain ⟨-, rfl, -⟩ := reset_eq_ok_iff.mp hr
    exact Store.outside_clear _ _
  | failed => rfl
  | setFaults => rfl

theorem outside_performAll (log : Log) (ops : List Operation) :
    (log.performAll ops).backend.store.outside keyStem = log.backend.store.outside keyStem :=
  performAll_induction (p := fun live _ => live.backend.store.outside keyStem = log.backend.store.outside keyStem)
    (fun hs h => (outside_step hs).trans h) log [] rfl ops

theorem Step.length_le {log log' : Log} {events events' : List Event} {op : Operation}
    (hs : Step log events op log' events') : events'.length ≤ events.length + 1 := by
  cases hs <;> simp

/-- A run records at most one event with each operation. -/
theorem length_recordedAll_le (log : Log) (events : List Event) (ops : List Operation) :
    (log.recordedAll events ops).length ≤ events.length + ops.length := by
  induction ops generalizing log events with
  | nil => exact Nat.le_refl _
  | cons op ops ih =>
    have hone := (step_perform log events op).length_le
    have hrest := ih (log.perform op) (log.recorded events op)
    rw [recordedAll, List.length_cons]
    omega

/-! ### Reachable logs -/

/-- The log was opened on some store, and then some operations were carried out on it. -/
def Reachable (log : Log) : Prop :=
  ∃ b opened notice ops, open? b = .ok (opened, notice) ∧ opened.performAll ops = log

theorem reachable_of_open? {b : Backend} {log : Log} {notice : Notice} (h : open? b = .ok (log, notice)) :
    log.Reachable := ⟨b, log, notice, [], h, rfl⟩

theorem performAll_concat (log : Log) (ops : List Operation) (op : Operation) :
    log.performAll (ops ++ [op]) = (log.performAll ops).perform op := List.foldl_concat ..

theorem Reachable.step {log log' : Log} {events events' : List Event} {op : Operation}
    (hs : Step log events op log' events') (h : log.Reachable) : log'.Reachable := by
  obtain ⟨b, opened, notice, ops, ho, rfl⟩ := h
  cases hs with
  | @appended e _ _ ha =>
    exact ⟨b, opened, notice, ops ++ [.append e], ho, by rw [performAll_concat, perform, ha]⟩
  | removed hr => exact ⟨b, opened, notice, ops ++ [.reset], ho, by rw [performAll_concat, perform, hr]⟩
  | failed => exact ⟨b, opened, notice, ops, ho, rfl⟩
  | setFaults faults => exact ⟨b, opened, notice, ops ++ [.setFaults faults], ho, performAll_concat _ _ _⟩

theorem Reachable.exists_holds {log : Log} (h : log.Reachable) : ∃ events, log.Holds events := by
  obtain ⟨b, opened, notice, ops, ho, rfl⟩ := h
  obtain ⟨events, hholds⟩ := holds_of_open? ho
  exact ⟨_, hholds.performAll ops⟩

/-- A reachable log is indexed just as its events are. -/
theorem Reachable.history_eq {log : Log} (h : log.Reachable) :
    log.history = History.ofList log.history.events.toList := by
  obtain ⟨events, hholds⟩ := h.exists_holds
  rw [hholds.history, History.events_ofList]

theorem reachable_fresh (ops : List Operation) : (fresh.performAll ops).Reachable :=
  ⟨_, _, _, ops, open?_empty, rfl⟩

end Log
end AdAdmission
