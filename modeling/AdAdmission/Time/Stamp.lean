import AdAdmission.Text.Blank
import AdAdmission.Text.Digits
import AdAdmission.Time.Instant
/-! Instants in text. A record holds an instant as `2026-01-15T12:00:00Z`, a message as
    `2026-01-15 12:00:00 UTC`. Both give the fraction of a second with no, three, six or nine digits,
    the fewest that are exact, and a year outside `0..9999` with its sign. Reading takes a wider
    grammar: blanks between the parts, short numbers, and any offset from universal time. -/

namespace AdAdmission
namespace Instant
open Text Time

/-! ### Writing -/

/-- The date of an instant. -/
def date (t : Instant) : Date := Date.ofNumber (t.second / 86400)

/-- A year has four digits, and outside `0..9999` a sign and at least four digits. -/
def writeYear (y : Int) : List Char :=
  if 0 ≤ y ∧ y ≤ 9999 then padded 4 y.toNat
  else (if y < 0 then '-' else '+') :: padded 4 y.natAbs

/-- A fraction of a second in the fewest digits of none, three, six and nine that are exact. -/
def writeFraction (nanos : Nat) : List Char :=
  if nanos = 0 then []
  else if nanos % 1000000 = 0 then '.' :: padded 3 (nanos / 1000000)
  else if nanos % 1000 = 0 then '.' :: padded 6 (nanos / 1000)
  else '.' :: padded 9 nanos

/-- A date as year, month and day. -/
def writeDate (d : Date) : List Char :=
  writeYear d.year ++ '-' :: padded 2 d.month ++ '-' :: padded 2 d.day

/-- A time of day. The seconds of a leap second are written as 60. -/
def writeTime (t : Instant) : List Char :=
  let s := t.secondOfDay.toNat
  let leap := if t.InLeap then 1 else 0
  padded 2 (s / 3600) ++ ':' :: padded 2 (s / 60 % 60) ++ ':' :: padded 2 (s % 60 + leap) ++
    writeFraction (t.nanos - leap * 1000000000)

/-- The text of an instant in a record. -/
def stamp (t : Instant) : List Char := writeDate t.date ++ 'T' :: writeTime t ++ ['Z']

/-- The text of an instant in a record. -/
def iso (t : Instant) : String := String.ofList t.stamp

/-- The text of an instant in a message. -/
def display (t : Instant) : String :=
  String.ofList (writeDate t.date ++ ' ' :: writeTime t) ++ " UTC"

/-! ### Reading -/

/-- Takes up to `most` decimal digits, and at least one. -/
def takeNumber (most : Nat) (cs : List Char) : Option (Nat × List Char) :=
  let ds := (cs.take most).takeWhile Char.isDigit
  if ds.isEmpty then none else some (valueOf ds, cs.drop ds.length)

/-- Takes a number of at most two digits, with blanks before it, when it is within the bounds. -/
def takeField (least most : Nat) (cs : List Char) : Option (Nat × List Char) := do
  let (n, rest) ← takeNumber 2 (skipBlank cs)
  if least ≤ n ∧ n ≤ most then some (n, rest) else none

/-- Takes one given character, with blanks before it. -/
def takeMark (mark : Char) (cs : List Char) : Option (List Char) :=
  match skipBlank cs with
  | c :: rest => if c = mark then some rest else none
  | [] => none

/-- Takes a year: up to four digits, or a sign and any number of them. -/
def takeYear (cs : List Char) : Option (Int × List Char) :=
  match skipBlank cs with
  | '-' :: rest => (takeNumber rest.length rest).map fun (n, rest) => (-(n : Int), rest)
  | '+' :: rest => (takeNumber rest.length rest).map fun (n, rest) => ((n : Int), rest)
  | rest => (takeNumber 4 rest).map fun (n, rest) => ((n : Int), rest)

/-- Takes a fraction of a second, which may be missing. Digits after the ninth are dropped. -/
def takeFraction (cs : List Char) : Option (Nat × List Char) :=
  match cs with
  | '.' :: rest =>
    let ds := rest.takeWhile Char.isDigit
    if ds.isEmpty then none
    else
      let kept := ds.take 9
      some (valueOf kept * Nat.pow 10 (9 - kept.length), rest.drop ds.length)
  | _ => some (0, cs)

/-- Takes the offset from universal time in seconds: a letter or name for none, or a sign, two digits
    of hours and two of minutes, with colons and blanks between them. -/
def takeOffset (cs : List Char) : Option (Int × List Char) :=
  match cs with
  | a :: b :: c :: rest =>
    if a.toUpper = 'U' ∧ b.toUpper = 'T' ∧ c.toUpper = 'C' then some (0, rest) else letterOrSign cs
  | _ => letterOrSign cs
where
  /-- Takes `Z` or a signed offset. -/
  letterOrSign : List Char → Option (Int × List Char)
    | 'Z' :: rest => some (0, rest)
    | 'z' :: rest => some (0, rest)
    | '+' :: rest => (hoursAndMinutes rest).map fun (n, rest) => ((n : Int), rest)
    | '-' :: rest => (hoursAndMinutes rest).map fun (n, rest) => (-(n : Int), rest)
    | '\u2212' :: rest => (hoursAndMinutes rest).map fun (n, rest) => (-(n : Int), rest)
    | _ => none
  /-- Takes the digits of an offset of less than a day. -/
  hoursAndMinutes (cs : List Char) : Option (Nat × List Char) := do
    let (hours, cs) ← twoDigits cs
    let (minutes, rest) ← twoDigits (cs.dropWhile fun c => c == ':' || isBlankChar c)
    if hours < 24 ∧ minutes < 60 then some (hours * 3600 + minutes * 60, rest) else none
  /-- Takes exactly two digits. -/
  twoDigits : List Char → Option (Nat × List Char)
    | a :: b :: rest => if a.isDigit ∧ b.isDigit then some (valueOf [a, b], rest) else none
    | _ => none

/-- The instant of a local date and time of day at an offset from universal time. The local date has
    to lie within the range of dates itself. -/
def ofLocal? (d : Date) (hour minute second nanos : Nat) (offset : Int) : Option Instant :=
  if d.Exists ∧ -262143 ≤ d.year ∧ d.year ≤ 262142 then
    let leap : Nat := if second = 60 then 1 else 0
    of? (d.number * 86400 + hour * 3600 + minute * 60 + (second - leap) - offset)
      (nanos + leap * 1000000000)
  else none

/-- Reads the text of an instant. -/
def ofStamp? (cs : List Char) : Option Instant := do
  let (year, cs) ← takeYear cs
  let cs ← takeMark '-' cs
  let (month, cs) ← takeField 1 12 cs
  let cs ← takeMark '-' cs
  let (day, cs) ← takeField 1 31 cs
  let cs ← match cs with
    | 'T' :: rest => some rest
    | 't' :: rest => some rest
    | ' ' :: rest => some rest
    | _ => none
  let (hour, cs) ← takeField 0 23 cs
  let cs ← takeMark ':' cs
  let (minute, cs) ← takeField 0 59 cs
  let cs ← takeMark ':' cs
  let (second, cs) ← takeField 0 60 cs
  let (nanos, cs) ← takeFraction cs
  let (offset, cs) ← takeOffset (skipBlank cs)
  if (skipBlank cs).isEmpty then ofLocal? ⟨year, month, day⟩ hour minute second nanos offset
  else none

/-- Reads the text of an instant. -/
def parse? (text : String) : Option Instant := ofStamp? text.toList

end Instant
end AdAdmission
