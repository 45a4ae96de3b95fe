import AdAdmission.History
import AdAdmission.Time.Stamp
/-! Permission rules. A rule looks at the history and at the current instant and decides whether a
    candidate may be shown. It keeps no counters of its own, so the same rule gives the same decision on
    the same history at the same instant.

    A cap denies once the number of events in its window reaches it. The window includes the instant it
    starts at. A rule that is scoped to a surface allows the candidates of every other surface. -/

namespace AdAdmission

/-- How many events a cap allows: at least one. -/
structure Cap where
  count : UInt32
  pos : 0 < count.toNat
deriving DecidableEq

/-- The cap of the given number, which is at least one and fits a word of 32 binary digits. -/
def Cap.ofNat? (n : Nat) : Option Cap :=
  if h : 0 < n ∧ n < 4294967296 then
    some ⟨UInt32.ofNat n, by rw [UInt32.toNat_ofNat_of_lt' h.2]; exact h.1⟩
  else none

/-- A rule on what may be shown. -/
inductive Rule where
  /-- At most so many events within the window before now. -/
  | perWindowCap (window : UInt64) (cap : Cap) (scope : Option AdKind)
      (counted : ConfirmationKind)
  /-- At least so many seconds from the latest event to now. -/
  | minimumInterval (gap : UInt64) (scope : Option AdKind) (counted : ConfirmationKind)
  /-- At most so many events of the same ad within the window before now. -/
  | perAdCap (window : UInt64) (cap : Cap) (counted : ConfirmationKind)
  /-- At most so many events of the same campaign within the window before now. -/
  | perCreativeSetCap (window : UInt64) (cap : Cap) (counted : ConfirmationKind)
  /-- No ad after it has converted. -/
  | conversionExclusion
deriving DecidableEq

/-- What a rule decides. A denial comes with an explanation. -/
inductive Decision where
  | allowed
  | denied (detail : String)
deriving DecidableEq

namespace Rule

/-- The seconds of an hour. -/
def hour : UInt64 := 3600

/-- The seconds of a day. -/
def day : UInt64 := 86400

/-- At most so many views of a surface in an hour. -/
def perHour (kind : AdKind) (cap : Cap) : Rule := perWindowCap hour cap (some kind) .viewed

/-- At most so many views of a surface in a day. -/
def perDay (kind : AdKind) (cap : Cap) : Rule := perWindowCap day cap (some kind) .viewed

/-- At least so many seconds between two views of a surface. -/
def waitBetween (kind : AdKind) (gap : UInt64) : Rule := minimumInterval gap (some kind) .viewed

/-- The surface that a rule is scoped to. -/
def scope : Rule → Option AdKind
  | perWindowCap _ _ scope _ => scope
  | minimumInterval _ scope _ => scope
  | _ => none

/-- The rule governs candidates of the surface. -/
def appliesTo (r : Rule) (kind : AdKind) : Bool := r.scope.all (· == kind)

/-- The seconds of the rule's window or gap. -/
def duration? : Rule → Option UInt64
  | perWindowCap window .. => some window
  | minimumInterval gap .. => some gap
  | perAdCap window .. => some window
  | perCreativeSetCap window .. => some window
  | conversionExclusion => none

/-- Denies when the number of events has reached the cap. -/
def decideCap (subject : String) (count : Nat) (counted : ConfirmationKind) (window : UInt64)
    (cap : Cap) : Decision :=
  if cap.count.toNat ≤ count then
    .denied (subject ++ toString count ++ " " ++ counted.name ++ " events in the last " ++
      toString window.toNat ++ "s (cap " ++ toString cap.count.toNat ++ ")")
  else .allowed

/-- The start of the window of so many seconds before now. -/
def windowStart (now : Instant) (window : UInt64) : Instant :=
  now.windowStart (Span.ofSeconds window)

/-- What a rule says about a candidate that it governs. -/
def judge (r : Rule) (c : Candidate) (h : History) (now : Instant) : Decision :=
  match r with
  | perWindowCap window cap scope counted =>
    decideCap "" (h.countSince scope (some counted) (windowStart now window)) counted window cap
  | minimumInterval gap scope counted =>
    match h.mostRecent? scope (some counted) with
    | some last =>
      if now.elapsed last.timestamp < (Span.ofSeconds gap).nanos then
        .denied ("last " ++ counted.name ++ " event at " ++ last.timestamp.display ++ " is within " ++
          toString gap.toNat ++ "s")
      else .allowed
    | none => .allowed
  | perAdCap window cap counted =>
    decideCap ("ad " ++ c.adIdentifier ++ " has ")
      (h.countForAdSince c.adIdentifier (some counted) (windowStart now window)) counted window cap
  | perCreativeSetCap window cap counted =>
    decideCap ("creative set " ++ c.creativeSetId ++ " has ")
      (h.countForSetSince c.creativeSetId (some counted) (windowStart now window)) counted window cap
  | conversionExclusion =>
    if 0 < h.countForAdSince c.adIdentifier (some .conversion) Instant.earliest then
      .denied ("ad " ++ c.adIdentifier ++ " already converted")
    else .allowed

/-- Decides whether a candidate may be shown now. -/
def decide (r : Rule) (c : Candidate) (h : History) (now : Instant) : Decision :=
  if r.appliesTo c.kind then r.judge c h now else .allowed

end Rule
end AdAdmission
