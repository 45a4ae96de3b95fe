import AdAdmission.Yaml.Scalar.Folding
/-! Plain scalars. A plain scalar ends before a colon with a gap after it, before a comment, before the
    mark of a document, and where a later line is not indented enough. Within brackets and braces it also
    ends before these and before a comma. -/

namespace AdAdmission
namespace Yaml

/-- What stands right before a place in a plain scalar. -/
inductive Before where
  /-- A character of the scalar. -/
  | char
  /-- A blank, on the line of a character. -/
  | blank
  /-- The indentation of a line. -/
  | line
deriving DecidableEq

/-- The brackets, braces and commas that end a plain scalar within brackets or braces. -/
def isFlowIndicator (c : Char) : Bool := ",[]\x7b\x7d".toList.contains c

/-- A colon right before such a character, or before a question mark, is refused within brackets. -/
def isBadColon (cs : Cells) : Bool :=
  charAt 0 cs == ':' && (isFlowIndicator (charAt 1 cs) || charAt 1 cs == '?')

/-- A plain scalar ends before these cells. -/
def endsPlain (flow : Bool) (margin : Nat) (before : Before) (cs : Cells) : Bool :=
  charAt 0 cs == endChar ||
    (before != .char &&
      ((!flow && columnOf cs < margin) || isDocumentMark cs || charAt 0 cs == '#')) ||
    (charAt 0 cs == ':' && isGap (charAt 1 cs)) || (flow && isFlowIndicator (charAt 0 cs))

/-- Reads the pieces of a plain scalar whose later lines start at the margin or right of it. Tells what
    stands before its end. -/
def plainPieces? (flow : Bool) (margin : Nat) :
    Before → Cells → Option (List Piece × Before × Cells)
  | before, [] => some ([], before, [])
  | before, c :: rest =>
    if isBlank c.char then
      if before = .line ∧ c.column < margin ∧ c.char = '\t' then none
      else
        let before := if before = .line then Before.line else .blank
        (plainPieces? flow margin before rest).map fun (ps, r) => (.blank c.char :: ps, r)
    else if isBreak c.char then
      (plainPieces? flow margin .line rest).map fun (ps, r) => (.lineBreak c.char :: ps, r)
    else if endsPlain flow margin before (c :: rest) then some ([], before, c :: rest)
    else if flow && isBadColon (c :: rest) then none
    else (plainPieces? flow margin .char rest).map fun (ps, r) => (.char c.char :: ps, r)

/-- Reads a plain scalar. Tells whether it was followed by a line break. -/
def plain? (flow : Bool) (margin : Nat) (cs : Cells) : Option (List Char × Bool × Cells) :=
  (plainPieces? flow margin .char cs).map fun (ps, before, cs) =>
    (fold (trimEnd ps), before = .line, cs)

end Yaml
end AdAdmission
