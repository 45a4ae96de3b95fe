import AdAdmission.Event.Record
import AdAdmission.History
import AdAdmission.Notice
import AdAdmission.Store
/-! The event log. It keeps the history of events in memory and in a store, one record for an event. An
    event is written to the store first and joins the history only when that succeeded. The key of a
    record carries a sequence number of fixed width, so the order of keys is the order of recording,
    and opening the log on the same store brings the same history back. -/

namespace AdAdmission

/-! ### Keys -/

namespace Log

/-- What the keys of event records begin with. -/
def keyStem : String := "ad_event/"

/-- The key of the record with the given sequence number. -/
def keyOf (sequence : UInt64) : String :=
  keyStem ++ String.ofList (Text.padded 20 sequence.toNat)

/-- The sequence number that a key carries. -/
def sequence? (key : String) : Option UInt64 :=
  if beginsWith keyStem key then Text.word? (key.toList.drop keyStem.length) else none

end Log

/-! ### Errors -/

/-- What is wrong with a record of the store. -/
inductive RecordFault where
  /-- The key carries no sequence number. -/
  | badKey
  /-- The bytes are no event. -/
  | undecodable
  /-- The event is before one of the same surface in an earlier record. -/
  | precedes (kind : AdKind) (timestamp last : Instant)
deriving DecidableEq

/-- The wording of what is wrong with a record. -/
def RecordFault.reason : RecordFault → String
  | badKey => "key does not carry a sequence number"
  | undecodable => "record is not an event"
  | precedes kind timestamp last =>
    kind.name ++ " event at " ++ timestamp.display ++ " precedes earlier record at " ++ last.display

/-- Why an operation of the log failed. -/
inductive LogError where
  /-- The event is before the last one of its surface. -/
  | outOfOrder (kind : AdKind) (timestamp last : Instant)
  /-- The store failed. -/
  | storageFailure (e : StoreError)
  /-- A record of the store is wrong. -/
  | corrupt (key : String) (fault : RecordFault)
  /-- The event has no record. -/
  | serialization (reason : String)
deriving DecidableEq

/-- The wording of a failure of the log. -/
def LogError.message : LogError → String
  | outOfOrder kind timestamp last =>
    "out-of-order " ++ kind.name ++ " event at " ++ timestamp.display ++ " (last recorded at " ++
      last.display ++ ")"
  | storageFailure e => "storage failure: " ++ e.message
  | corrupt key fault => "corrupt event record at \"" ++ key ++ "\": " ++ fault.reason
  | serialization reason => "event serialization failed: " ++ reason

/-! ### The log -/

/-- An event log over a store. -/
structure Log where
  backend : Backend
  history : History
  /-- The sequence number of the next record. -/
  nextSequence : UInt64

namespace Log

/-- The sequence number after another; the greatest is followed by itself. -/
def following (n : UInt64) : UInt64 := if n.toNat + 1 < UInt64.size then n + 1 else n

/-- The instant of the last event of the surface, when the event is before it. -/
def precedes? (h : History) (e : Event) : Option Instant :=
  (h.lastTimestamp? e.adKind).filter fun last => e.timestamp < last

/-- Takes over one record of the store. -/
def load (state : History × UInt64) (entry : Entry) : Except LogError (History × UInt64) :=
  match sequence? entry.1 with
  | none => .error (.corrupt entry.1 .badKey)
  | some sequence =>
    match Event.decode? entry.2 with
    | none => .error (.corrupt entry.1 .undecodable)
    | some e =>
      match precedes? state.1 e with
      | some last => .error (.corrupt entry.1 (.precedes e.adKind e.timestamp last))
      | none => .ok (state.1.record e, following sequence)

/-- Opens the log on a store: takes over every event record, in the order of keys. -/
def open? (backend : Backend) : Except LogError (Log × Notice) :=
  match backend.scan keyStem with
  | .error e => .error (.storageFailure e)
  | .ok entries => do
    let (history, next) ← entries.foldlM load (History.empty, 0)
    return (⟨backend, history, next⟩, .logOpened history.size)

/-- Records an event: it must not be before the last one of its surface, it is turned into bytes, these
    are written to the store, and then it joins the history. -/
def append (log : Log) (e : Event) : Except LogError (Log × Notice) :=
  match precedes? log.history e with
  | some last => .error (.outOfOrder e.adKind e.timestamp last)
  | none =>
    match e.serialize with
    | .error reason => .error (.serialization reason)
    | .ok value =>
      let key := keyOf log.nextSequence
      match log.backend.put key value with
      | .error fault => .error (.storageFailure fault)
      | .ok backend =>
        .ok (⟨backend, log.history.record e, following log.nextSequence⟩,
          .eventAppended key e.adKind e.confirmation)

/-- Removes every event from the store and from the history. -/
def reset (log : Log) : Except LogError (Log × Notice) :=
  match log.backend.clear keyStem with
  | .error fault => .error (.storageFailure fault)
  | .ok backend => .ok (⟨backend, History.empty, 0⟩, .historyReset log.history.size)

/-- The number of events. -/
def size (log : Log) : Nat := log.history.size

/-- A short description of the log. -/
def describe (log : Log) : String :=
  "EventLog \x7b events: " ++ toString log.size ++ ", next_sequence: " ++
    toString log.nextSequence.toNat ++ " \x7d"

end Log
end AdAdmission
