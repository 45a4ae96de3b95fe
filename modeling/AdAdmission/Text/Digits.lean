/-! Decimal numbers in text. Writing pads with zeros on the left, so numbers of one width are
    ordered like their texts. -/

namespace AdAdmission
namespace Text

/-- The decimal digits of a number, without leading zeros. -/
def digits (n : Nat) : List Char := Nat.toDigits 10 n

/-- The decimal digits of a number, with zeros on the left up to `width` digits. -/
def padded (width n : Nat) : List Char :=
  List.replicate (width - (digits n).length) '0' ++ digits n

/-- The value of a decimal digit. -/
def digitValue (c : Char) : Nat := c.toNat - '0'.toNat

/-- The number that a run of decimal digits denotes. -/
def valueOf (cs : List Char) : Nat := cs.foldl (fun n c => 10 * n + digitValue c) 0

/-- Reads a text of decimal digits only, and at least one of them. -/
def number? (cs : List Char) : Option Nat :=
  if cs.isEmpty then none else if cs.all Char.isDigit then some (valueOf cs) else none

/-- Reads a number below `2 ^ 64`: one plus sign may come first, and leading zeros may too. -/
def word? (cs : List Char) : Option UInt64 :=
  let body := match cs with
    | '+' :: rest => rest
    | _ => cs
  match number? body with
  | some n => if n < UInt64.size then some (UInt64.ofNat n) else none
  | none => none

/-- The value of a hexadecimal digit of either case. -/
def hexValue? (c : Char) : Option Nat :=
  if c.isDigit then some (c.toNat - '0'.toNat)
  else if 'a' ≤ c ∧ c ≤ 'f' then some (c.toNat - 'a'.toNat + 10)
  else if 'A' ≤ c ∧ c ≤ 'F' then some (c.toNat - 'A'.toNat + 10)
  else none

/-- Reads a number in a base of at most sixteen, digits only, and at least one of them. -/
def based? (base : Nat) (cs : List Char) : Option Nat :=
  if cs.isEmpty then none
  else cs.foldl (fun acc c => do
    let n ← acc
    let d ← hexValue? c
    if d < base then some (base * n + d) else none) (some 0)

end Text
end AdAdmission
