import AdAdmission.Text.Digits
import AdAdmission.Yaml.Scalar.Folding
/-! Quoted scalars. Within single quotes a quote is written twice and nothing else is special. Within
    double quotes a backslash begins an escape. Both fold their lines, and neither may hold the mark of a
    document. -/

namespace AdAdmission
namespace Yaml

/-- Reads the pieces of a scalar in single quotes, after the first quote. -/
def singleQuoted? : Cells → Option (List Piece × Cells)
  | [] => none
  | c :: rest =>
    if isDocumentMark (c :: rest) ∨ c.char = endChar then none
    else if c.char = '\'' then
      match rest with
      | d :: more =>
        if d.char = '\'' then (singleQuoted? more).map fun (ps, cs) => (.char '\'' :: ps, cs)
        else some ([], rest)
      | [] => some ([], rest)
    else
      let piece : Piece :=
        if isBlank c.char then .blank c.char
        else if isBreak c.char then .lineBreak c.char else .char c.char
      (singleQuoted? rest).map fun (ps, cs) => (piece :: ps, cs)

/-- The character of a one-letter escape. -/
def escaped? : Char → Option Char
  | '0' => some '\x00'
  | 'a' => some '\x07'
  | 'b' => some '\x08'
  | 't' => some '\t'
  | '\t' => some '\t'
  | 'n' => some '\n'
  | 'v' => some '\x0b'
  | 'f' => some '\x0c'
  | 'r' => some '\r'
  | 'e' => some '\x1b'
  | ' ' => some ' '
  | '"' => some '"'
  | '/' => some '/'
  | '\\' => some '\\'
  | 'N' => some '\u0085'
  | '_' => some '\u00a0'
  | 'L' => some '\u2028'
  | 'P' => some '\u2029'
  | _ => none

/-- The number of hexadecimal digits of a numbered escape. -/
def escapeWidth? : Char → Option Nat
  | 'x' => some 2
  | 'u' => some 4
  | 'U' => some 8
  | _ => none

/-- The character of a numbered escape. It has to be a character of its own, so a surrogate is none. -/
def numbered? (digits : List Char) : Option Char := do
  let n ← Text.based? 16 digits
  if h : n.isValidChar then some (Char.ofNatAux n h) else none

/-- Reads the pieces of a scalar in double quotes, after the first quote. -/
def doubleQuoted? : Cells → Option (List Piece × Cells)
  | [] => none
  | c :: rest =>
    if isDocumentMark (c :: rest) ∨ c.char = endChar then none
    else if c.char = '"' then some ([], rest)
    else if c.char = '\\' then
      match rest with
      | [] => none
      | d :: more =>
        if isBreak d.char then
          (doubleQuoted? more).map fun (ps, cs) => (.escapedBreak :: ps, cs)
        else
          match escapeWidth? d.char with
          | some width => do
            let digits := (more.take width).map Cell.char
            let e ← if digits.length = width then numbered? digits else none
            let (ps, cs) ← doubleQuoted? (more.drop width)
            return (.char e :: ps, cs)
          | none => do
            let e ← escaped? d.char
            let (ps, cs) ← doubleQuoted? more
            return (.char e :: ps, cs)
    else
      let piece : Piece :=
        if isBlank c.char then .blank c.char
        else if isBreak c.char then .lineBreak c.char else .char c.char
      (doubleQuoted? rest).map fun (ps, cs) => (piece :: ps, cs)
termination_by cs => cs.length
decreasing_by all_goals simp only [List.length_cons, List.length_drop]; omega

/-- Reads a scalar in quotes from its first quote on. -/
def quoted? (cs : Cells) : Option (List Char × Cells) :=
  let pieces? := if charAt 0 cs = '\'' then singleQuoted? else doubleQuoted?
  (pieces? (cs.drop 1)).map fun (ps, cs) => (fold ps, cs)

end Yaml
end AdAdmission
