import AdAdmission.Chain
import AdAdmission.Log
import AdAdmission.Signal
/-! Delivery of ads. A candidate is validated, the rules are asked, the view is recorded, and only then a
    signal is reported and the ad shown: an ad that could not be recorded because the store failed is
    not shown. A view that is earlier than the last event of its surface, because the clock went back,
    is dropped and the ad is shown nevertheless. A signal that could not be reported holds nothing up. -/

namespace AdAdmission

/-! ### Outcomes -/

/-- What became of a candidate. -/
inductive Outcome where
  /-- It was shown. -/
  | delivered
  /-- A rule denied it. -/
  | suppressed (d : Denial)
  /-- It is not valid. -/
  | rejected (e : CandidateError)
deriving DecidableEq

/-- Why a delivery, a confirmation or a reset failed. -/
inductive DeliveryError where
  | log (e : LogError)
  | invalid (e : CandidateError)
  | unsupported (kind : AdKind) (confirmation : ConfirmationKind)
deriving DecidableEq

/-- The wording of a failure. -/
def DeliveryError.message : DeliveryError → String
  | log e => "event log error: " ++ e.message
  | invalid e => "invalid candidate: " ++ e.message
  | unsupported kind confirmation =>
    kind.name ++ " ads do not support " ++ confirmation.name ++ " events"

/-- Why a signal was not reported. -/
inductive ReportError where
  | unavailable (text : String)
  | rejected (text : String)
deriving DecidableEq

/-- The wording of why a signal was not reported. -/
def ReportError.message : ReportError → String
  | unavailable text => "signal reporter unavailable: " ++ text
  | rejected text => "signal rejected: " ++ text

/-! ### The desk -/

/-- The place where ads are delivered: the rules, the log, the clock, and what was shown and reported so
    far. -/
structure Desk where
  chain : Chain
  log : Log
  now : Instant
  shown : List Candidate
  reported : List Signal
  /-- The failure that every report currently ends in. The reporter notes the signal first. -/
  reportFault : Option ReportError

/-- The answer of an operation, the state after it, and what it told, in order. -/
structure Result (α : Type) where
  answer : α
  desk : Desk
  notices : List Notice

namespace Desk

/-- A desk at which nothing was shown yet. -/
def start (chain : Chain) (log : Log) (now : Instant) (reportFault : Option ReportError) : Desk :=
  ⟨chain, log, now, [], [], reportFault⟩

/-- Reports the signal of a candidate and shows it. -/
def display (d : Desk) (c : Candidate) (s : Segment) : Desk × List Notice :=
  let signal := Signal.impression c.kind s
  let missed := d.reportFault.toList.map fun e => Notice.signalNotReported signal.name e.message
  ({ d with shown := d.shown ++ [c], reported := d.reported ++ [signal] },
    missed ++ [.adDelivered c.adIdentifier c.kind])

/-- Tries to deliver a candidate. -/
def deliver (d : Desk) (c : Candidate) : Result (Except DeliveryError Outcome) :=
  match c.check with
  | .error e => ⟨.ok (.rejected e), d, [.candidateRejected c.adIdentifier e.message]⟩
  | .ok segment =>
    let verdict := d.chain.evaluate c d.log.history d.now
    let asked := d.chain.notice c verdict
    match verdict with
    | .denied denial => ⟨.ok (.suppressed denial), d, [asked]⟩
    | .allowed =>
      match Event.build? c.kind .viewed c d.now with
      | none => ⟨.error (.unsupported c.kind .viewed), d, [asked]⟩
      | some event =>
        match d.log.append event with
        | .ok (log, appended) =>
          let (desk, shown) := { d with log }.display c segment
          ⟨.ok .delivered, desk, asked :: appended :: shown⟩
        | .error (.outOfOrder kind timestamp last) =>
          let dropped :=
            Notice.viewDropped c.adIdentifier (LogError.outOfOrder kind timestamp last).message
          let (desk, shown) := d.display c segment
          ⟨.ok .delivered, desk, asked :: dropped :: shown⟩
        | .error e => ⟨.error (.log e), d, [asked, .viewNotRecorded c.adIdentifier e.message]⟩

/-- Records a confirmation of a candidate that was shown earlier. The rules are not asked. -/
def confirm (d : Desk) (c : Candidate) (confirmation : ConfirmationKind) :
    Result (Except DeliveryError Unit) :=
  match c.fault? with
  | some e => ⟨.error (.invalid e), d, []⟩
  | none =>
    match Event.build? c.kind confirmation c d.now with
    | none => ⟨.error (.unsupported c.kind confirmation), d, []⟩
    | some event =>
      match d.log.append event with
      | .error e => ⟨.error (.log e), d, []⟩
      | .ok (log, appended) =>
        ⟨.ok (), { d with log },
          [appended, .confirmationRecorded c.adIdentifier c.kind confirmation]⟩

/-- Removes all recorded history. -/
def resetHistory (d : Desk) : Result (Except DeliveryError Unit) :=
  match d.log.reset with
  | .error e => ⟨.error (.log e), d, []⟩
  | .ok (log, removed) => ⟨.ok (), { d with log }, [removed]⟩

/-- Moves the clock on by a span, which may be negative. It stands still where there is no instant. -/
def advance (d : Desk) (span : Span) : Desk := { d with now := d.now.advance span }

/-- Sets the clock. -/
def setClock (d : Desk) (now : Instant) : Desk := { d with now }

/-- Sets the failures of the store. -/
def setFaults (d : Desk) (faults : Faults) : Desk :=
  { d with log := { d.log with backend := { d.log.backend with faults } } }

/-- A short description of the desk. -/
def describe (d : Desk) : String :=
  "AdDeliveryOrchestrator \x7b rules: " ++ toString d.chain.length ++ ", history_len: " ++
    toString d.log.size ++ " \x7d"

end Desk

/-! ### Runs -/

/-- What can happen at a desk. -/
inductive Action where
  | deliver (c : Candidate)
  | confirm (c : Candidate) (confirmation : ConfirmationKind)
  | reset
  | advance (span : Span)
  | setClock (now : Instant)
  | setFaults (faults : Faults)

/-- The answer to an action. -/
inductive Answer where
  | delivery (r : Except DeliveryError Outcome)
  | confirmation (r : Except DeliveryError Unit)
  | reset (r : Except DeliveryError Unit)
  | done

namespace Desk

/-- Carries out one action. -/
def act (d : Desk) : Action → Result Answer
  | .deliver c => let r := d.deliver c; ⟨.delivery r.answer, r.desk, r.notices⟩
  | .confirm c k => let r := d.confirm c k; ⟨.confirmation r.answer, r.desk, r.notices⟩
  | .reset => let r := d.resetHistory; ⟨.reset r.answer, r.desk, r.notices⟩
  | .advance span => ⟨.done, d.advance span, []⟩
  | .setClock now => ⟨.done, d.setClock now, []⟩
  | .setFaults faults => ⟨.done, d.setFaults faults, []⟩

/-- The state after a run of actions. -/
def run (d : Desk) (actions : List Action) : Desk := actions.foldl (fun d a => (d.act a).desk) d

end Desk
end AdAdmission
