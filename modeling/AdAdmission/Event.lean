import AdAdmission.Candidate
import AdAdmission.Time.Instant
/-! Events. An event records one confirmation of one ad at one instant. It is made from the candidate it
    confirms, and only for a confirmation that the candidate's surface can bring. -/

namespace AdAdmission

/-- The record of one confirmation. -/
structure Event where
  /-- The surface the ad was shown on. -/
  adKind : AdKind
  /-- What happened. -/
  confirmation : ConfirmationKind
  /-- The identifier of the ad. -/
  adIdentifier : String
  /-- The campaign of the ad. -/
  creativeSetId : String
  /-- The classification of the ad. -/
  segment : String
  /-- When it happened. -/
  timestamp : Instant
deriving DecidableEq

namespace Event

/-- The event of a confirmation of a candidate. -/
def record (c : Candidate) (confirmation : ConfirmationKind) (now : Instant) : Event :=
  ⟨c.kind, confirmation, c.adIdentifier, c.creativeSetId, c.segment, now⟩

/-- The event of a confirmation on the given surface, when that is the candidate's own surface and can
    bring the confirmation. -/
def build? (kind : AdKind) (confirmation : ConfirmationKind) (c : Candidate) (now : Instant) :
    Option Event :=
  if c.kind = kind ∧ kind.supports confirmation then some (record c confirmation now) else none

/-- The event is of the given surface and of the given confirmation, where these are given. -/
def isOf (e : Event) (kind : Option AdKind) (confirmation : Option ConfirmationKind) : Bool :=
  kind.all (· == e.adKind) && confirmation.all (· == e.confirmation)

theorem build?_kind {c : Candidate} {k : ConfirmationKind} {now : Instant} :
    build? c.kind k c now = if c.kind.supports k then some (record c k now) else none := by
  simp [build?]

theorem build?_viewed {c : Candidate} {now : Instant} :
    build? c.kind .viewed c now = some (record c .viewed now) := by
  simp [build?, AdKind.supports_viewed]

end Event
end AdAdmission
