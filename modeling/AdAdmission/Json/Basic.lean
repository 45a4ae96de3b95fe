import AdAdmission.Text.Digits
/-! Values of JSON. Members of an object keep their order and may repeat. A string whose escapes or
    bytes denote no text is kept as such, because a value that is passed over may hold one; a number
    keeps its digits for the same reason. -/

namespace AdAdmission

/-- A decimal number as it is written. -/
structure Decimal where
  negative : Bool
  /-- The digits before the point. -/
  whole : List Char
  /-- The digits after the point, none when there is no point. -/
  fraction : List Char
  exponent : Option Int
deriving DecidableEq

namespace Decimal

/-- A natural number. -/
def ofNat (n : Nat) : Decimal := ⟨false, Text.digits n, [], none⟩

/-- The number is written with digits alone, a sign aside. -/
def isInteger (d : Decimal) : Bool := d.fraction.isEmpty && d.exponent.isNone

/-! ### The range of double precision -/

/-- Takes digits as long as the number they denote is below `2 ^ 64`. -/
def absorb (n : Nat) : List Char → Nat × List Char
  | [] => (n, [])
  | c :: rest =>
    if 10 * n + Text.digitValue c < 18446744073709551616 then
      absorb (10 * n + Text.digitValue c) rest
    else (n, c :: rest)

/-- The leading digits as a natural number and the power of ten that goes with it. Digits beyond
    `2 ^ 64` count by their place only. -/
def scaled (d : Decimal) : Nat × Int :=
  let (n, skipped) := absorb 0 d.whole
  let (n, unused) := absorb n d.fraction
  (n, skipped.length - (d.fraction.length - unused.length : Nat) + d.exponent.getD 0)

/-- The nearest number of 53 binary digits, of two the even one. -/
def toDouble (n : Nat) : Nat :=
  let k := n.log2 + 1 - 53
  let unit := Nat.pow 2 k
  let q := n / unit
  let r := 2 * (n % unit)
  (if unit < r ∨ r = unit ∧ k ≠ 0 ∧ q % 2 = 1 then q + 1 else q) * unit

/-- The least number for which double precision has no finite one: it lies half a unit beyond the
    greatest finite one. -/
def bound : Nat := Nat.pow 2 1024 - Nat.pow 2 970

/-- The number is so large that double precision has no finite number for it. -/
def overflows (d : Decimal) : Bool :=
  let (n, e) := d.scaled
  n != 0 && 0 ≤ e &&
    (308 < e || bound ≤ toDouble n * toDouble (Nat.pow 10 e.toNat))

end Decimal

/-- A value of JSON. -/
inductive Json where
  | null
  | bool (b : Bool)
  | number (d : Decimal)
  /-- A string, without content when it denotes no text. -/
  | text (content : Option String)
  | array (items : List Json)
  | object (members : List (Option String × Json))

namespace Json

/-- A string that denotes a text. -/
def ofText (s : String) : Json := .text (some s)

/-- A natural number. -/
def ofNat (n : Nat) : Json := .number (.ofNat n)

/-- An object with the given members. -/
def ofMembers (members : List (String × Json)) : Json :=
  .object (members.map fun (k, v) => (some k, v))

/-- The members of an object whose names are all texts. -/
def members? : List (Option String × Json) → Option (List (String × Json))
  | [] => some []
  | (some k, v) :: rest => (members? rest).map ((k, v) :: ·)
  | (none, _) :: _ => none

theorem members?_ofMembers (members : List (String × Json)) :
    members? (members.map fun (k, v) => (some k, v)) = some members := by
  induction members with
  | nil => rfl
  | cons m rest ih => simp [members?, ih]

end Json
end AdAdmission
