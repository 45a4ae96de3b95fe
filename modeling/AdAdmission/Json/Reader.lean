import AdAdmission.Text.Utf8
import AdAdmission.Json.Basic
/-! Reading JSON. The grammar is strict: no comments, no commas at the end, no leading zeros, no control
    characters within strings, and nothing but white space around the value. -/

namespace AdAdmission
namespace Json
open Text (Glyph)

/-- The text after the white space at its start. -/
def skipSpace : List Glyph → List Glyph
  | .char ' ' :: rest => skipSpace rest
  | .char '\n' :: rest => skipSpace rest
  | .char '\t' :: rest => skipSpace rest
  | .char '\r' :: rest => skipSpace rest
  | rest => rest

/-! ### Strings -/

/-- A part of a string: a character, half of a character given by its surrogate, or a byte that
    belongs to no character. -/
inductive Piece where
  | char (c : Char)
  | half (unit : Nat)
  | stray

/-- The character of a one-letter escape. -/
def shortEscape? : Char → Option Char
  | '"' => some '"'
  | '\\' => some '\\'
  | '/' => some '/'
  | 'b' => some '\x08'
  | 'f' => some '\x0c'
  | 'n' => some '\n'
  | 'r' => some '\r'
  | 't' => some '\t'
  | _ => none

/-- The piece of a numbered escape. -/
def numberedEscape? (a b c d : Char) : Option Piece := do
  let n := ((((← Text.hexValue? a) * 16 + (← Text.hexValue? b)) * 16 + (← Text.hexValue? c)) * 16 +
    (← Text.hexValue? d))
  if 0xD800 ≤ n ∧ n ≤ 0xDFFF then some (.half n) else some (.char (Char.ofNat n))

/-- Reads a string up to its closing quote. -/
def pieces? : List Glyph → Option (List Piece × List Glyph)
  | .char '"' :: rest => some ([], rest)
  | .char '\\' :: .char 'u' :: .char a :: .char b :: .char c :: .char d :: rest => do
    let piece ← numberedEscape? a b c d
    let (pieces, rest) ← pieces? rest
    return (piece :: pieces, rest)
  | .char '\\' :: .char e :: rest => do
    let c ← shortEscape? e
    let (pieces, rest) ← pieces? rest
    return (.char c :: pieces, rest)
  | .char '\\' :: _ => none
  | .char c :: rest =>
    if c.toNat < 32 then none
    else do
      let (pieces, rest) ← pieces? rest
      return (.char c :: pieces, rest)
  | .stray _ :: rest => do
    let (pieces, rest) ← pieces? rest
    return (.stray :: pieces, rest)
  | [] => none

/-- The text that pieces denote: a leading half joins the trailing half right after it. -/
def join? : List Piece → Option (List Char)
  | [] => some []
  | .char c :: rest => (join? rest).map (c :: ·)
  | .half a :: .half b :: rest =>
    if a < 0xDC00 ∧ 0xDC00 ≤ b then
      (join? rest).map (Char.ofNat (0x10000 + (a - 0xD800) * 1024 + (b - 0xDC00)) :: ·)
    else none
  | .half _ :: _ => none
  | .stray :: _ => none

/-- Reads a string after its opening quote. -/
def string? (cs : List Glyph) : Option (Option String × List Glyph) := do
  let (pieces, rest) ← pieces? cs
  return ((join? pieces).map String.ofList, rest)

/-! ### Numbers -/

/-- Splits off the decimal digits at the start. -/
def takeDigits : List Glyph → List Char × List Glyph
  | .char c :: rest =>
    if c.isDigit then
      let (ds, rest) := takeDigits rest
      (c :: ds, rest)
    else ([], .char c :: rest)
  | rest => ([], rest)

/-- The digits before the point: one zero, or digits that do not begin with a zero. -/
def isWhole : List Char → Bool
  | [] => false
  | ['0'] => true
  | c :: _ => c != '0'

/-- Reads the digits after a point, if there is one. -/
def fraction? : List Glyph → Option (List Char × List Glyph)
  | .char '.' :: rest =>
    let (ds, rest) := takeDigits rest
    if ds.isEmpty then none else some (ds, rest)
  | rest => some ([], rest)

/-- Reads the digits of an exponent after its sign. -/
def exponentDigits? (negative : Bool) (cs : List Glyph) : Option (Option Int × List Glyph) :=
  let (ds, rest) := takeDigits cs
  if ds.isEmpty then none
  else
    let n : Int := Text.valueOf ds
    some (some (if negative then -n else n), rest)

/-- Reads an exponent, if there is one. -/
def exponent? (cs : List Glyph) : Option (Option Int × List Glyph) :=
  let signed : List Glyph → Option (Option Int × List Glyph)
    | .char '+' :: rest => exponentDigits? false rest
    | .char '-' :: rest => exponentDigits? true rest
    | rest => exponentDigits? false rest
  match cs with
  | .char 'e' :: rest => signed rest
  | .char 'E' :: rest => signed rest
  | rest => some (none, rest)

/-- Reads a number. -/
def number? (cs : List Glyph) : Option (Json × List Glyph) := do
  let (negative, cs) := match cs with
    | .char '-' :: rest => (true, rest)
    | _ => (false, cs)
  let (whole, cs) := takeDigits cs
  if isWhole whole then do
    let (fraction, cs) ← fraction? cs
    let (exponent, rest) ← exponent? cs
    return (.number ⟨negative, whole, fraction, exponent⟩, rest)
  else none

/-! ### Values -/

mutual

/-- Reads a value. The first argument bounds the depth of the recursion. -/
def value? : Nat → List Glyph → Option (Json × List Glyph)
  | 0, _ => none
  | fuel + 1, cs =>
    match skipSpace cs with
    | .char '\x7b' :: rest =>
      match skipSpace rest with
      | .char '\x7d' :: rest => some (.object [], rest)
      | rest => (memberList? fuel rest).map fun (ms, rest) => (.object ms, rest)
    | .char '[' :: rest =>
      match skipSpace rest with
      | .char ']' :: rest => some (.array [], rest)
      | rest => (itemList? fuel rest).map fun (items, rest) => (.array items, rest)
    | .char '"' :: rest => (string? rest).map fun (s, rest) => (.text s, rest)
    | .char 'n' :: .char 'u' :: .char 'l' :: .char 'l' :: rest => some (.null, rest)
    | .char 't' :: .char 'r' :: .char 'u' :: .char 'e' :: rest => some (.bool true, rest)
    | .char 'f' :: .char 'a' :: .char 'l' :: .char 's' :: .char 'e' :: rest => some (.bool false, rest)
    | rest => number? rest

/-- Reads the items of an array and its closing bracket. -/
def itemList? : Nat → List Glyph → Option (List Json × List Glyph)
  | 0, _ => none
  | fuel + 1, cs => do
    let (item, rest) ← value? fuel cs
    match skipSpace rest with
    | .char ',' :: rest =>
      let (items, rest) ← itemList? fuel rest
      return (item :: items, rest)
    | .char ']' :: rest => return ([item], rest)
    | _ => none

/-- Reads the members of an object and its closing brace. -/
def memberList? : Nat → List Glyph → Option (List (Option String × Json) × List Glyph)
  | 0, _ => none
  | fuel + 1, cs =>
    match skipSpace cs with
    | .char '"' :: rest => do
      let (name, rest) ← string? rest
      match skipSpace rest with
      | .char ':' :: rest =>
        let (value, rest) ← value? fuel rest
        match skipSpace rest with
        | .char ',' :: rest =>
          let (members, rest) ← memberList? fuel rest
          return ((name, value) :: members, rest)
        | .char '\x7d' :: rest => return ([(name, value)], rest)
        | _ => none
      | _ => none
    | _ => none

end

/-- Reads a text that is one value. Every step of the recursion takes a glyph or stands between two
    steps that do, so twice the length bounds its depth. -/
def document? (cs : List Glyph) : Option Json :=
  match value? (2 * cs.length + 2) cs with
  | some (j, rest) => if (skipSpace rest).isEmpty then some j else none
  | none => none

/-- Reads the text of a value. -/
def parse? (text : String) : Option Json := document? (Text.glyphs text)

/-- Reads the bytes of a value. -/
def ofBytes? (bytes : ByteArray) : Option Json := document? (Text.decode bytes)

end Json
end AdAdmission
