import AdAdmission.Time.Calendar
/-! Instants and spans of time. An instant counts seconds from 1 January 1970 and nanoseconds within
    the second. A second that ends a minute can be followed by a leap second, whose nanoseconds are
    counted on from `10 ^ 9`. Instants have a first and a last one, and a span is bounded too, so
    arithmetic saturates at the ends. -/

namespace AdAdmission

/-! ### Spans -/

/-- A length of time in nanoseconds, which may be negative. -/
structure Span where
  nanos : Int
  lower : -9223372036854775807000000 ≤ nanos
  upper : nanos ≤ 9223372036854775807000000
deriving DecidableEq

namespace Span

/-- The longest span. -/
def longest : Span := ⟨9223372036854775807000000, by decide, by decide⟩

/-- The longest span back in time. -/
def mostNegative : Span := ⟨-9223372036854775807000000, by decide, by decide⟩

/-- The span of the given nanoseconds, when it is within the bounds. -/
def ofNanos? (n : Int) : Option Span :=
  if h : -9223372036854775807000000 ≤ n ∧ n ≤ 9223372036854775807000000 then
    some ⟨n, h.1, h.2⟩
  else none

/-- A whole number of seconds, or the longest span when there is no span of that many. -/
def ofSeconds (s : UInt64) : Span :=
  (ofNanos? (s.toNat * 1000000000)).getD longest

/-- The whole seconds of a span, toward zero. -/
def wholeSeconds (d : Span) : Int := d.nanos.tdiv 1000000000

/-- The nanoseconds beyond the whole seconds, with the sign of the span. -/
def subsecond (d : Span) : Int := d.nanos.tmod 1000000000

/-- The span of the same length in the other direction. -/
def negate (d : Span) : Span :=
  ⟨-d.nanos, by have := d.upper; omega, by have := d.lower; omega⟩

end Span

/-! ### Instants -/

namespace Time

/-- The second that begins the first day. -/
def firstSecond : Int := -8334601228800

/-- The second that ends the last day. -/
def lastSecond : Int := 8210266876799

theorem firstSecond_eq : firstSecond = (Date.number ⟨-262143, 1, 1⟩) * 86400 := by decide

theorem lastSecond_eq : lastSecond = (Date.number ⟨262142, 12, 31⟩) * 86400 + 86399 := by decide

end Time

/-- A point in time. -/
structure Instant where
  /-- Seconds from 1 January 1970. -/
  second : Int
  /-- Nanoseconds within the second, from `10 ^ 9` on within the leap second after it. -/
  nanos : Nat
  nanos_lt : nanos < 2000000000
  leap : 1000000000 ≤ nanos → second % 60 = 59
  lower : Time.firstSecond ≤ second
  upper : second ≤ Time.lastSecond
deriving DecidableEq

namespace Instant

/-- The instant of the given second and nanoseconds, when there is one. -/
def of? (second : Int) (nanos : Nat) : Option Instant :=
  if h : nanos < 2000000000 ∧ (1000000000 ≤ nanos → second % 60 = 59) ∧
      Time.firstSecond ≤ second ∧ second ≤ Time.lastSecond then
    some ⟨second, nanos, h.1, h.2.1, h.2.2.1, h.2.2.2⟩
  else none

/-- The instant so many nanoseconds from the beginning of a second, outside leap seconds. -/
def offset? (second : Int) (nanos : Int) : Option Instant :=
  of? (second + nanos / 1000000000) (nanos % 1000000000).toNat

/-- The earliest instant. -/
def earliest : Instant := ⟨Time.firstSecond, 0, by decide, by decide, by decide, by decide⟩

/-- The latest instant outside leap seconds. -/
def latest : Instant :=
  ⟨Time.lastSecond, 999999999, by decide, by decide, by decide, by decide⟩

/-- The instant lies within a leap second. -/
def InLeap (t : Instant) : Prop := 1000000000 ≤ t.nanos

instance (t : Instant) : Decidable t.InLeap := by unfold InLeap; infer_instance

/-! ### Order -/

/-- One instant is before the other or the same: the seconds decide, then the nanoseconds. -/
def le (t u : Instant) : Prop := t.second < u.second ∨ t.second = u.second ∧ t.nanos ≤ u.nanos

instance : LE Instant := ⟨le⟩

instance : LT Instant := ⟨fun t u => ¬ u ≤ t⟩

instance (t u : Instant) : Decidable (t ≤ u) := by
  change Decidable (le t u)
  unfold le
  infer_instance

instance (t u : Instant) : Decidable (t < u) := by
  change Decidable (¬ u ≤ t)
  infer_instance

theorem le_iff {t u : Instant} :
    t ≤ u ↔ t.second < u.second ∨ t.second = u.second ∧ t.nanos ≤ u.nanos := Iff.rfl

/-! ### Moving in time -/

/-- The instant `d` after `t`, when there is one. Moving away from a leap second leaves it: forward
    it counts as the second before it, backward as the second after it. A move that stays within the
    leap second, or goes back from it by less than a second, keeps counting in it. -/
def after? (t : Instant) (d : Span) : Option Instant :=
  if t.InLeap then
    let part := d.subsecond
    if 0 < d.wholeSeconds ∨ 0 < part ∧ 2000000000 - part ≤ t.nanos then
      offset? t.second (t.nanos - 1000000000 + d.nanos)
    else if d.wholeSeconds < 0 then
      offset? (t.second + 1) (t.nanos - 1000000000 + d.nanos)
    else of? t.second (t.nanos + part).toNat
  else offset? t.second (t.nanos + d.nanos)

/-- The start of the window of the given length that ends at `now`. It is the earliest instant when
    the window would begin outside the range of instants. -/
def windowStart (now : Instant) (window : Span) : Instant :=
  (now.after? window.negate).getD earliest

/-- The second of its day that an instant belongs to. -/
def secondOfDay (t : Instant) : Int := t.second % 86400

/-- The nanoseconds from `u` to `t`. A leap second counts when it lies between the two times of day. -/
def elapsed (t u : Instant) : Int :=
  let adjust : Int :=
    if u.secondOfDay < t.secondOfDay then (if u.InLeap then 1 else 0)
    else if t.secondOfDay < u.secondOfDay then (if t.InLeap then -1 else 0)
    else 0
  (t.second - u.second + adjust) * 1000000000 + (t.nanos - u.nanos)

/-- The instant after moving on by `d`, or `t` itself when there is none. -/
def advance (t : Instant) (d : Span) : Instant := (t.after? d).getD t

end Instant
end AdAdmission
