import AdAdmission.Value
import AdAdmission.Yaml.Token
/-! What scalars mean. A plain scalar without a tag is null, a truth value or a number when it is written
    like one, and text otherwise. Any other scalar is text, unless its tag asks for one of these. -/

namespace AdAdmission

/-- The nearest number of double precision is finite. -/
def Decimal.isFinite (d : Decimal) : Bool :=
  let digits := d.whole ++ d.fraction
  let n := Text.valueOf digits
  let e : Int := d.exponent.getD 0 - d.fraction.length
  n == 0 || (if 0 ≤ e then e ≤ 308 && n * Nat.pow 10 e.toNat < bound
    else digits.length ≤ e.natAbs || n < bound * Nat.pow 10 e.natAbs)

namespace Yaml

/-! ### Whole numbers -/

/-- A number in the base that comes first: `0x` for sixteen, `0o` for eight, `0b` for two, and ten
    without one of these. More than one decimal digit must not begin with a zero. -/
def magnitude? : List Char → Option Nat
  | '0' :: 'x' :: rest => Text.based? 16 rest
  | '0' :: 'o' :: rest => Text.based? 8 rest
  | '0' :: 'b' :: rest => Text.based? 2 rest
  | '0' :: _ :: _ => none
  | cs => Text.number? cs

/-- What a scalar is that is written like a whole number: the value, or none when it is beyond 64 binary
    digits but within 128. Beyond these it is no whole number. -/
def whole? (cs : List Char) : Option (Option Value) :=
  let positive (n : Nat) : Option (Option Value) :=
    if n < Nat.pow 2 64 then some (some (.int n)) else if n < Nat.pow 2 128 then some none else none
  match cs with
  | '-' :: rest => do
    let n ← magnitude? rest
    if n = 0 then some (some .minusZero)
    else if n ≤ Nat.pow 2 63 then some (some (.int (-n)))
    else if n ≤ Nat.pow 2 127 then some none
    else none
  | '+' :: rest => (magnitude? rest).bind positive
  | _ => (magnitude? cs).bind positive

/-! ### Other numbers -/

/-- Reads an exponent up to the end: none when there is none. -/
def exponentPart? : List Char → Option (Option Int)
  | [] => some none
  | c :: rest =>
    if c = 'e' ∨ c = 'E' then
      match rest with
      | '+' :: digits => (Text.number? digits).map fun n => some n
      | '-' :: digits => (Text.number? digits).map fun n => some (-n)
      | digits => (Text.number? digits).map fun n => some n
    else none

/-- Reads a decimal number without its sign: digits before or after the point, or both, and an
    exponent. -/
def decimal? (cs : List Char) : Option Decimal := do
  let whole := cs.takeWhile Char.isDigit
  let rest := cs.dropWhile Char.isDigit
  let (fraction, rest) := match rest with
    | '.' :: rest => (rest.takeWhile Char.isDigit, rest.dropWhile Char.isDigit)
    | _ => ([], rest)
  if whole.isEmpty ∧ fraction.isEmpty then none
  else return ⟨false, whole, fraction, ← exponentPart? rest⟩

/-- Infinity as it is written. -/
def isInfinity (cs : List Char) : Bool :=
  [".inf", ".Inf", ".INF"].contains (String.ofList cs)

/-- The scalar is written like a number with a finite value, or like infinity or no number. -/
def isReal (cs : List Char) : Bool :=
  let body := match cs with
    | '+' :: rest => rest
    | '-' :: rest => rest
    | _ => cs
  isInfinity body || [".nan", ".NaN", ".NAN"].contains (String.ofList cs) ||
    (decimal? body).any Decimal.isFinite

/-- Decimal digits that begin with a zero and are more than that one, a sign aside. -/
def isPadded (cs : List Char) : Bool :=
  let body := match cs with
    | '+' :: rest => rest
    | '-' :: rest => rest
    | _ => cs
  match body with
  | '0' :: c :: rest => (c :: rest).all Char.isDigit
  | _ => false

/-! ### Scalars -/

/-- Null as it is written. -/
def isNull (cs : List Char) : Bool := ["null", "Null", "NULL", "~"].contains (String.ofList cs)

/-- A truth value as it is written. -/
def truth? (cs : List Char) : Option Bool :=
  if ["true", "True", "TRUE"].contains (String.ofList cs) then some true
  else if ["false", "False", "FALSE"].contains (String.ofList cs) then some false
  else none

/-- The value of a plain scalar without a tag. -/
def plainValue? (cs : List Char) : Option Value :=
  if cs.isEmpty ∨ isNull cs then some .null
  else
    match truth? cs, whole? cs with
    | some b, _ => some (.bool b)
    | none, some v => v
    | none, none =>
      if isReal cs ∧ ¬ isPadded cs then some .real else some (.text (String.ofList cs))

/-- The tag of a type that every text knows. -/
def knownTag (name : String) : Tag := ("tag:yaml.org,2002:" ++ name).toUTF8.toList

/-- A tag that a text has for its own use: it begins with an exclamation mark, and the rest is text. -/
def isOwnTag : Tag → Bool
  | 0x21 :: rest => (String.fromUTF8? rest.toByteArray).isSome
  | _ => false

/-- The value of a scalar with a tag. -/
def taggedValue? (tag : Tag) (cs : List Char) : Option Value :=
  if isOwnTag tag then none
  else if tag = knownTag "bool" then (truth? cs).map .bool
  else if tag = knownTag "int" then (whole? cs).join
  else if tag = knownTag "float" then if isReal cs then some .real else none
  else if tag = knownTag "null" then if isNull cs then some .null else none
  else some (.text (String.ofList cs))

/-- The value of a scalar. -/
def scalarValue? (tag : Option Tag) (plain : Bool) (text : String) : Option Value :=
  match tag with
  | some tag => taggedValue? tag text.toList
  | none => if plain then plainValue? text.toList else some (.text text)

end Yaml
end AdAdmission
