import AdAdmission.Text.Digits
import AdAdmission.Yaml.Cell
/-! Block scalars. A block scalar is a run of lines with one indentation, which its header gives or its
    first line shows. A literal one keeps its line breaks. A folded one joins two lines by a space unless
    one of them begins with a blank. What becomes of the breaks at its end is told by the header. -/

namespace AdAdmission
namespace Yaml

/-- What becomes of the line breaks at the end of a block scalar. -/
inductive Chomping where
  /-- None is kept. -/
  | strip
  /-- The first one is kept. -/
  | clip
  /-- All are kept. -/
  | keep
deriving DecidableEq

/-- The chomping of its sign. -/
def Chomping.ofSign? : Char → Option Chomping
  | '+' => some .keep
  | '-' => some .strip
  | _ => none

/-- Reads an indentation of one digit, which is not zero, if there is one. -/
def increment? (cs : Cells) : Option (Option Nat × Cells) :=
  let c := charAt 0 cs
  if c = '0' then none
  else if c.isDigit then some (some (Text.digitValue c), cs.drop 1)
  else some (none, cs)

/-- Reads a chomping sign and an indentation, each of which may be missing, in either order. -/
def blockHeader? (cs : Cells) : Option (Chomping × Option Nat × Cells) :=
  match Chomping.ofSign? (charAt 0 cs) with
  | some chomping => do
    let (increment, cs) ← increment? (cs.drop 1)
    return (chomping, increment, cs)
  | none => do
    match ← increment? cs with
    | (some increment, cs) =>
      match Chomping.ofSign? (charAt 0 cs) with
      | some chomping => return (chomping, some increment, cs.drop 1)
      | none => return (.clip, some increment, cs)
    | (none, cs) => return (.clip, none, cs)

/-- Reads indentation and empty lines up to a place that is neither: the breaks of the lines, the
    greatest column reached, and the cells from there on. Without an indentation all spaces belong to
    it. A tab is no indentation. -/
def emptyLines? (indent : Option Nat) (widest : Nat) : Cells → Option (List Char × Nat × Cells)
  | [] => some ([], widest, [])
  | c :: rest =>
    let indenting := match indent with
      | some n => decide (c.column < n)
      | none => true
    if indenting && c.char == ' ' then emptyLines? indent widest rest
    else if indenting && c.char == '\t' then none
    else if isBreak c.char then
      (emptyLines? indent (max widest c.column) rest).map fun (bs, r) => (c.char :: bs, r)
    else some ([], max widest c.column, c :: rest)

/-- A line of a block scalar. -/
structure BlockLine where
  /-- The breaks of the empty lines before it. -/
  before : List Char
  text : List Char
  /-- Its own break, which the end of the text may replace. -/
  ending : Option Char

/-- The line begins with a blank. -/
def BlockLine.isIndented (l : BlockLine) : Bool :=
  match l.text with
  | c :: _ => isBlank c
  | [] => false

/-- Reads the lines of a block scalar after empty lines, and the breaks of the empty lines at its end.
    Each line takes a cell at least, so their number bounds the recursion. -/
def blockLines? (indent : Nat) :
    Nat → List Char → Cells → Option (List BlockLine × List Char × Cells)
  | 0, before, cs => some ([], before, cs)
  | fuel + 1, before, cs =>
    if columnOf cs = indent ∧ charAt 0 cs ≠ endChar then do
      let (text, cs) := spanChars (fun c => !isLineEnd c) cs
      let (ending, cs) :=
        if isBreak (charAt 0 cs) then (some (charAt 0 cs), cs.drop 1) else (none, cs)
      let (later, _, cs) ← emptyLines? (some indent) 0 cs
      let (lines, final, cs) ← blockLines? indent fuel later cs
      return (⟨before, text, ending⟩ :: lines, final, cs)
    else some ([], before, cs)

/-- What the break between two lines stands for, empty lines aside. -/
def joint (folded : Bool) (above below : BlockLine) : List Char :=
  if folded ∧ above.ending = some '\n' ∧ ¬ above.isIndented ∧ ¬ below.isIndented then
    if below.before.isEmpty then [' '] else []
  else above.ending.toList

/-- The text of lines after a line, and the last break. -/
def joinAfter (folded : Bool) (above : BlockLine) : List BlockLine → List Char × Option Char
  | [] => ([], above.ending)
  | below :: rest =>
    let (text, ending) := joinAfter folded below rest
    (joint folded above below ++ below.before ++ below.text ++ text, ending)

/-- The text of lines, and the last break. -/
def joinLines (folded : Bool) : List BlockLine → List Char × Option Char
  | [] => ([], none)
  | first :: rest =>
    let (text, ending) := joinAfter folded first rest
    (first.before ++ first.text ++ text, ending)

/-- Reads a block scalar after the sign that tells its kind. The indentation of the block around it is
    given, if there is one. -/
def block? (folded : Bool) (outer : Option Nat) (cs : Cells) : Option (List Char × Cells) := do
  let (chomping, increment, cs) ← blockHeader? cs
  let cs ← skipLine? cs
  let given := increment.map (outer.getD 0 + ·)
  let (before, widest, cs) ← emptyLines? given 0 cs
  let least := match outer with
    | some n => n + 1
    | none => 1
  let (lines, final, cs) ← blockLines? (given.getD (max widest least)) cs.length before cs
  let (text, ending) := joinLines folded lines
  let tail := match chomping with
    | .strip => []
    | .clip => ending.toList
    | .keep => ending.toList ++ final
  return (text ++ tail, cs)

end Yaml
end AdAdmission
