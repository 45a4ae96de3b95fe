/-! YAML text as cells. Indentation carries meaning, so each character is kept with the place where it
    stands. A line break is one cell, however it is written, and one more cell stands for the end of the
    text. -/

namespace AdAdmission
namespace Yaml

/-! ### Characters -/

/-- The characters that a text may hold: all but the controls, surrogates and noncharacters, though
    tab, the line breaks and the next line control are text. -/
def isAllowed (c : Char) : Bool :=
  let n := c.val
  n == 0x09 || n == 0x0A || n == 0x0D || (0x20 ≤ n && n ≤ 0x7E) || n == 0x85 ||
    (0xA0 ≤ n && n ≤ 0xD7FF) || (0xE000 ≤ n && n ≤ 0xFFFD) || 0x10000 ≤ n

/-- Stands for the end of the text. No text holds this character. -/
def endChar : Char := '\x00'

/-- A line break of a cell. -/
def isBreak (c : Char) : Bool := c == '\n' || c == '\u2028' || c == '\u2029'

/-- A space or a tab. -/
def isBlank (c : Char) : Bool := c == ' ' || c == '\t'

/-- A line break or the end of the text. -/
def isLineEnd (c : Char) : Bool := isBreak c || c == endChar

/-- A space, a tab, a line break or the end of the text. -/
def isGap (c : Char) : Bool := isBlank c || isLineEnd c

/-- A character of a name: a letter, a digit, an underscore or a hyphen, all of ASCII. -/
def isNameChar (c : Char) : Bool := c.isAlphanum || c == '_' || c == '-'

/-! ### Cells -/

/-- A character with its place. Lines, columns and characters count from zero. -/
structure Cell where
  char : Char
  line : Nat
  column : Nat
  index : Nat

/-- The cells from a place on. -/
abbrev Cells := List Cell

/-- The cells of characters from a place on. A carriage return, alone or before a line feed, and the
    next line control become a line feed. -/
def cellsFrom (line column index : Nat) : List Char → Cells
  | [] => [⟨endChar, line, column, index⟩]
  | '\r' :: '\n' :: rest => ⟨'\n', line, column, index⟩ :: cellsFrom (line + 1) 0 (index + 2) rest
  | c :: rest =>
    let c := if c = '\r' ∨ c = '\u0085' then '\n' else c
    if isBreak c then ⟨c, line, column, index⟩ :: cellsFrom (line + 1) 0 (index + 1) rest
    else ⟨c, line, column, index⟩ :: cellsFrom line (column + 1) (index + 1) rest

/-- The cells of a text. A byte order mark at its start takes a column but is no cell. -/
def cells? (text : String) : Option Cells :=
  if text.toList.all isAllowed then
    match text.toList with
    | '\ufeff' :: rest => some (cellsFrom 0 1 1 rest)
    | cs => some (cellsFrom 0 0 0 cs)
  else none

/-- The character a number of cells ahead. -/
def charAt (n : Nat) (cs : Cells) : Char :=
  match cs.drop n with
  | c :: _ => c.char
  | [] => endChar

/-- The column of the first cell. -/
def columnOf : Cells → Nat
  | c :: _ => c.column
  | [] => 0

/-- The characters at the start that satisfy a test, and the cells after them. -/
def spanChars (p : Char → Bool) (cs : Cells) : List Char × Cells :=
  ((cs.takeWhile fun c => p c.char).map Cell.char, cs.dropWhile fun c => p c.char)

/-- The cells after the blanks at the start. -/
def skipBlanks (cs : Cells) : Cells := cs.dropWhile fun c => isBlank c.char

/-- What is left after blanks and a comment to the end of the line, and its line break. -/
def skipLine? (cs : Cells) : Option Cells :=
  let cs := skipBlanks cs
  let cs := if charAt 0 cs = '#' then cs.dropWhile fun c => !isLineEnd c.char else cs
  if isBreak (charAt 0 cs) then some (cs.drop 1)
  else if charAt 0 cs = endChar then some cs
  else none

/-- Three marks at the start of a line with a gap after them. -/
def isMarked (mark : Char) (cs : Cells) : Bool :=
  columnOf cs == 0 && charAt 0 cs == mark && charAt 1 cs == mark && charAt 2 cs == mark &&
    isGap (charAt 3 cs)

/-- The start or the end of a document is marked here. -/
def isDocumentMark (cs : Cells) : Bool := isMarked '-' cs || isMarked '.' cs

end Yaml
end AdAdmission
