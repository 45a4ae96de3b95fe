import AdAdmission.Yaml.Cell
/-! Folding of lines. A scalar may go on over several lines: a single line break between two lines of it
    is a space, and of several breaks the first one is dropped. Blanks around a break do not count.
    Only a line feed folds; the other breaks stay. -/

namespace AdAdmission
namespace Yaml

/-- A part of a scalar before folding. -/
inductive Piece where
  | char (c : Char)
  | blank (c : Char)
  | lineBreak (c : Char)
  /-- A line break that is escaped, and so joins the lines without a space. -/
  | escapedBreak
deriving DecidableEq

/-- A piece that is white space. -/
def Piece.isGap : Piece → Bool
  | blank _ => true
  | lineBreak _ => true
  | _ => false

/-- The white space between two characters of a scalar. -/
inductive Gap where
  /-- Blanks within a line. -/
  | blanks (cs : List Char)
  /-- White space over lines: its first break, unless that one is escaped, and the later breaks. -/
  | lines (first : Option Char) (later : List Char)

namespace Gap

/-- No white space. -/
def none : Gap := blanks []

/-- A gap with one more blank. Blanks count within a line only. -/
def addBlank (c : Char) : Gap → Gap
  | blanks cs => blanks (cs ++ [c])
  | lines first later => lines first later

/-- A gap with one more break. -/
def addBreak (c : Char) : Gap → Gap
  | blanks _ => lines (some c) []
  | lines first later => lines first (later ++ [c])

/-- What a gap stands for. -/
def text : Gap → List Char
  | blanks cs => cs
  | lines (some first) later =>
    if first = '\n' then (if later.isEmpty then [' '] else later) else first :: later
  | lines .none later => later

end Gap

/-- The text of pieces after a gap. -/
def foldFrom : Gap → List Piece → List Char
  | g, [] => g.text
  | g, .char c :: rest => g.text ++ c :: foldFrom .none rest
  | g, .blank c :: rest => foldFrom (g.addBlank c) rest
  | g, .lineBreak c :: rest => foldFrom (g.addBreak c) rest
  | g, .escapedBreak :: rest => g.text ++ foldFrom (.lines .none []) rest

/-- The text of pieces. -/
def fold (pieces : List Piece) : List Char := foldFrom .none pieces

/-- The pieces without white space at their end. -/
def trimEnd (pieces : List Piece) : List Piece := (pieces.reverse.dropWhile Piece.isGap).reverse

end Yaml
end AdAdmission
