import AdAdmission.Text.Digits
/-! Numeric addresses of hosts. An address of version 4 is up to four numbers with dots between them,
    each decimal, octal or hexadecimal, of which the last fills the bytes that are left. An address of
    version 6 is eight pieces of hexadecimal digits with colons between them, of which a run may be
    left out once, and the last two may be written as an address of version 4. -/

namespace AdAdmission
namespace Url

/-! ### Version 4 -/

/-- Reads a part of an address. The base follows from what it begins with, and a prefix alone is
    zero. -/
def addressPart? (part : List Char) : Option Nat :=
  match part with
  | [] => none
  | ['0', 'x'] | ['0', 'X'] => some 0
  | '0' :: 'x' :: ds | '0' :: 'X' :: ds => Text.based? 16 ds
  | ['0'] => some 0
  | '0' :: ds => Text.based? 8 ds
  | ds => Text.based? 10 ds

/-- The parts of a name without the empty one that a dot at the end leaves. -/
def dropTrailingEmpty (parts : List (List Char)) : List (List Char) :=
  match parts.getLast? with
  | some [] => parts.dropLast
  | _ => parts

/-- The last part of a name is a number, so the name has to be an address. -/
def endsInNumber (parts : List (List Char)) : Bool :=
  match (dropTrailingEmpty parts).getLast? with
  | none => false
  | some [] => false
  | some last => last.all Char.isDigit || (addressPart? last).isSome

/-- The parts are an address of version 4. -/
def isAddress4 (parts : List (List Char)) : Bool :=
  let parts := dropTrailingEmpty parts
  match parts.mapM addressPart? with
  | none => false
  | some numbers =>
    numbers.length ≤ 4 && numbers.dropLast.all (· ≤ 255) &&
      (match numbers.getLast? with
        | none => false
        | some n => n < Nat.pow 256 (5 - numbers.length))

/-! ### Version 6 -/

/-- A hexadecimal digit. -/
def isHex (c : Char) : Bool := (Text.hexValue? c).isSome

/-- Reads a decimal number of a byte, without leading zeros, at the start of a text. -/
def takeByte (cs : List Char) : Option (List Char) :=
  let ds := cs.takeWhile Char.isDigit
  match ds with
  | [] => none
  | ['0'] => some (cs.drop 1)
  | '0' :: _ => none
  | _ => if ds.length ≤ 3 ∧ Text.valueOf ds ≤ 255 then some (cs.drop ds.length) else none

/-- So many bytes with dots between them, and nothing after them. -/
def isBytes : Nat → List Char → Bool
  | 0, cs => cs.isEmpty
  | count + 1, cs =>
    match takeByte cs with
    | none => false
    | some rest =>
      if count = 0 then rest.isEmpty
      else
        match rest with
        | '.' :: rest => isBytes count rest
        | _ => false

/-- The rest of an address of version 6 after so many pieces, where `gap` tells that pieces were left
    out. A gap counts as a piece. -/
def isPieces (count : Nat) (gap : Bool) (cs : List Char) : Bool :=
  match cs with
  | [] => gap || count == 8
  | ':' :: rest => count < 8 && !gap && isPieces (count + 1) true rest
  | c :: rest =>
    let piece := (c :: rest).take 4 |>.takeWhile isHex
    match h : (c :: rest).drop piece.length with
    | [] => count < 8 && (gap || count + 1 == 8)
    | '.' :: _ => !piece.isEmpty && count ≤ 6 && isBytes 4 (c :: rest) && (gap || count + 2 == 8)
    | ':' :: tail =>
      have : tail.length < (c :: rest).length := by
        have := congrArg List.length h
        simp only [List.length_drop, List.length_cons] at this ⊢
        omega
      count < 8 && !tail.isEmpty && isPieces (count + 1) gap tail
    | _ => false
termination_by cs.length
decreasing_by
  · exact Nat.lt_succ_self _
  · exact this

/-- The text is an address of version 6. -/
def isAddress6 (cs : List Char) : Bool :=
  match cs with
  | [] => false
  | [_] => false
  | ':' :: ':' :: rest => isPieces 1 true rest
  | ':' :: _ => false
  | cs => isPieces 0 false cs

end Url
end AdAdmission
