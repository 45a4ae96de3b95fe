import AdAdmission.Json.Basic
/-! The compact text of JSON: no white space, members in their order, and in strings only quotes,
    backslashes and control characters escaped. -/

namespace AdAdmission
namespace Json

/-- A digit of base sixteen, in small letters. -/
def hexDigit (n : Nat) : Char := if n < 10 then Char.ofNat (48 + n) else Char.ofNat (87 + n)

/-- A character within a string. -/
def escape (c : Char) : List Char :=
  if c = '"' then ['\\', '"']
  else if c = '\\' then ['\\', '\\']
  else if c = '\x08' then ['\\', 'b']
  else if c = '\t' then ['\\', 't']
  else if c = '\n' then ['\\', 'n']
  else if c = '\x0c' then ['\\', 'f']
  else if c = '\r' then ['\\', 'r']
  else if c.toNat < 32 then ['\\', 'u', '0', '0', hexDigit (c.toNat / 16), hexDigit (c.toNat % 16)]
  else [c]

/-- A string in quotes. One that denotes no text is written as half of a character. -/
def quoted (content : Option String) : List Char :=
  match content with
  | some s => '"' :: s.toList.flatMap escape ++ ['"']
  | none => "\"\\ud800\"".toList

/-- A number as it is written. -/
def writeNumber (d : Decimal) : List Char :=
  (if d.negative then ['-'] else []) ++ d.whole ++
    (if d.fraction.isEmpty then [] else '.' :: d.fraction) ++
    (match d.exponent with
      | none => []
      | some e => 'e' :: (if e < 0 then ['-'] else []) ++ Text.digits e.natAbs)

mutual

/-- The compact text of a value. -/
def print : Json → List Char
  | null => ['n', 'u', 'l', 'l']
  | bool true => ['t', 'r', 'u', 'e']
  | bool false => ['f', 'a', 'l', 's', 'e']
  | number d => writeNumber d
  | text content => quoted content
  | array [] => ['[', ']']
  | array (item :: items) => '[' :: (print item ++ printItems items)
  | object [] => ['\x7b', '\x7d']
  | object ((name, value) :: members) =>
    '\x7b' :: (quoted name ++ ':' :: (print value ++ printMembers members))

/-- The items after the first, up to the end of the array. -/
def printItems : List Json → List Char
  | [] => [']']
  | item :: items => ',' :: (print item ++ printItems items)

/-- The members after the first, up to the end of the object. -/
def printMembers : List (Option String × Json) → List Char
  | [] => ['\x7d']
  | (name, value) :: members => ',' :: (quoted name ++ ':' :: (print value ++ printMembers members))

end

/-- The compact text of a value. -/
def compact (j : Json) : String := String.ofList j.print

end Json
end AdAdmission
