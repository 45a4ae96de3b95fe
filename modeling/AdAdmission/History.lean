import AdAdmission.Event
/-! The history of events in memory. Events are kept in the order they were recorded, with three indexes
    that give the positions of the events of a surface, of an ad and of a campaign. Within a surface the
    events are in the order of their timestamps, so a count over a window skips the events before it. -/

namespace AdAdmission

/-! ### Indexes -/

/-- For each key the positions it occurs at, in ascending order. -/
abbrev Index (α : Type) := List (α × List Nat)

namespace Index
variable {α : Type} [DecidableEq α]

/-- The positions of a key, none when it does not occur. -/
def positions : Index α → α → List Nat
  | [], _ => []
  | (k, ps) :: rest, key => if k = key then ps else positions rest key

/-- Adds a position after the others of its key. -/
def add : Index α → α → Nat → Index α
  | [], key, i => [(key, [i])]
  | (k, ps) :: rest, key, i => if k = key then (k, ps ++ [i]) :: rest else (k, ps) :: add rest key i

theorem positions_add (index : Index α) (key other : α) (i : Nat) :
    (index.add key i).positions other =
      if key = other then index.positions other ++ [i] else index.positions other := by
  induction index with
  | nil => simp [add, positions]
  | cons entry rest ih =>
    obtain ⟨k, ps⟩ := entry
    by_cases hk : k = key
    · subst hk
      by_cases ho : k = other <;> simp [add, positions, ho]
    · by_cases ho : k = other
      · subst ho
        simp [add, positions, hk, Ne.symm hk]
      · simp [add, positions, hk, ho, ih]

end Index

/-! ### Histories -/

/-- The recorded events and where to find them. -/
structure History where
  events : Array Event
  byKind : Index AdKind
  byAd : Index String
  bySet : Index String

namespace History

/-- The history without events. -/
def empty : History := ⟨#[], [], [], []⟩

/-- Adds an event at the end. -/
def record (h : History) (e : Event) : History :=
  let i := h.events.size
  { events := h.events.push e
    byKind := h.byKind.add e.adKind i
    byAd := h.byAd.add e.adIdentifier i
    bySet := h.bySet.add e.creativeSetId i }

/-- The history of the given events, recorded in their order. -/
def ofList (events : List Event) : History := events.foldl record empty

/-- The number of events. -/
def size (h : History) : Nat := h.events.size

/-- The events at the given positions. -/
def eventsAt (h : History) (positions : List Nat) : List Event := positions.filterMap (h.events[·]?)

/-- The events of a surface, in the order they were recorded. -/
def ofKind (h : History) (kind : AdKind) : List Event := h.eventsAt (h.byKind.positions kind)

/-- The events of an ad, in the order they were recorded. -/
def ofAd (h : History) (adIdentifier : String) : List Event := h.eventsAt (h.byAd.positions adIdentifier)

/-- The events of a campaign, in the order they were recorded. -/
def ofSet (h : History) (creativeSetId : String) : List Event :=
  h.eventsAt (h.bySet.positions creativeSetId)

/-- The surfaces that a query covers. -/
def scope : Option AdKind → List AdKind
  | some kind => [kind]
  | none => AdKind.all

/-- The timestamp of the last event of a surface. -/
def lastTimestamp? (h : History) (kind : AdKind) : Option Instant :=
  (h.ofKind kind).getLast?.map (·.timestamp)

/-! ### Queries -/

/-- The number of events from an instant on, of the given surface and confirmation where these are
    given. -/
def countSince (h : History) (kind : Option AdKind) (confirmation : Option ConfirmationKind)
    (since : Instant) : Nat :=
  ((scope kind).flatMap fun k => (h.ofKind k).dropWhile fun e => e.timestamp < since).countP
    (·.isOf none confirmation)

/-- The number of events of the list from an instant on, of the given confirmation where it is given. -/
def countAmong (events : List Event) (confirmation : Option ConfirmationKind) (since : Instant) : Nat :=
  events.countP fun e => since ≤ e.timestamp && e.isOf none confirmation

/-- The number of events of an ad from an instant on. -/
def countForAdSince (h : History) (adIdentifier : String) (confirmation : Option ConfirmationKind)
    (since : Instant) : Nat :=
  countAmong (h.ofAd adIdentifier) confirmation since

/-- The number of events of a campaign from an instant on. -/
def countForSetSince (h : History) (creativeSetId : String)
    (confirmation : Option ConfirmationKind) (since : Instant) : Nat :=
  countAmong (h.ofSet creativeSetId) confirmation since

/-- The later of two events, the second of two at one instant. -/
def later (best : Option Event) (e : Event) : Option Event :=
  match best with
  | none => some e
  | some b => if e.timestamp < b.timestamp then some b else some e

/-- The latest event of the given surface and confirmation, where these are given. Of several at one
    instant it is one of the surface declared last, and of that surface the last recorded. -/
def mostRecent? (h : History) (kind : Option AdKind) (confirmation : Option ConfirmationKind) :
    Option Event :=
  ((scope kind).filterMap fun k =>
    (h.ofKind k).reverse.find? (·.isOf none confirmation)).foldl later none

end History
end AdAdmission
