import AdAdmission.Kind
/-! Notices. Every operation tells what it did, for an audit: what was recorded and removed, which rule
    denied a candidate, what was shown, and which failures were passed over. -/

namespace AdAdmission

/-- What an operation tells. -/
inductive Notice where
  | logOpened (events : Nat)
  | eventAppended (key : String) (kind : AdKind) (confirmation : ConfirmationKind)
  | historyReset (removed : Nat)
  | candidateDenied (rule : String) (kind : AdKind) (detail : String)
  | candidateAdmitted (kind : AdKind) (rules : Nat)
  | candidateRejected (adId error : String)
  | viewDropped (adId error : String)
  | viewNotRecorded (adId error : String)
  | signalNotReported (signal error : String)
  | adDelivered (adId : String) (kind : AdKind)
  | confirmationRecorded (adId : String) (kind : AdKind) (confirmation : ConfirmationKind)
deriving DecidableEq

namespace Notice

/-- How grave a notice is. -/
inductive Level where
  | debug
  | info
  | warn
  | error
deriving DecidableEq

/-- The name of a level. -/
def Level.name : Level → String
  | debug => "DEBUG"
  | info => "INFO"
  | warn => "WARN"
  | error => "ERROR"

/-- The content of a field of a notice. -/
inductive Content where
  | text (s : String)
  | count (n : Nat)
deriving DecidableEq

/-- The level of a notice. -/
def level : Notice → Level
  | logOpened .. | eventAppended .. | candidateDenied .. | candidateAdmitted .. => .debug
  | candidateRejected .. => .debug
  | historyReset .. | viewDropped .. | signalNotReported .. => .warn
  | viewNotRecorded .. => .error
  | adDelivered .. | confirmationRecorded .. => .info

/-- What a notice says. -/
def message : Notice → String
  | logOpened .. => "event log opened"
  | eventAppended .. => "ad event appended"
  | historyReset .. => "ad event history reset"
  | candidateDenied .. => "candidate denied by permission rule"
  | candidateAdmitted .. => "candidate admitted by permission rules"
  | candidateRejected .. => "candidate rejected"
  | viewDropped .. => "dropping out-of-order view event"
  | viewNotRecorded .. => "failed to record view; ad not delivered"
  | signalNotReported .. => "impression signal not reported"
  | adDelivered .. => "ad delivered"
  | confirmationRecorded .. => "ad confirmation recorded"

/-- The particulars of a notice, by name. -/
def fields : Notice → List (String × Content)
  | logOpened events => [("events", .count events)]
  | eventAppended key kind confirmation =>
    [("key", .text key), ("ad_kind", .text kind.name),
      ("confirmation_kind", .text confirmation.name)]
  | historyReset removed => [("removed", .count removed)]
  | candidateDenied rule kind detail =>
    [("rule", .text rule), ("ad_kind", .text kind.name), ("detail", .text detail)]
  | candidateAdmitted kind rules => [("ad_kind", .text kind.name), ("rules", .count rules)]
  | candidateRejected adId error => [("ad_id", .text adId), ("error", .text error)]
  | viewDropped adId error => [("ad_id", .text adId), ("error", .text error)]
  | viewNotRecorded adId error => [("ad_id", .text adId), ("error", .text error)]
  | signalNotReported signal error => [("signal", .text signal), ("error", .text error)]
  | adDelivered adId kind => [("ad_id", .text adId), ("ad_kind", .text kind.name)]
  | confirmationRecorded adId kind confirmation =>
    [("ad_id", .text adId), ("ad_kind", .text kind.name),
      ("confirmation_kind", .text confirmation.name)]

end Notice
end AdAdmission
