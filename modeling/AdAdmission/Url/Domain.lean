import AdAdmission.Text.Utf8
import AdAdmission.Unicode.Mark
import AdAdmission.Unicode.Joining
import AdAdmission.Unicode.Direction
import AdAdmission.Unicode.Composition
import AdAdmission.Url.DomainMapping
import AdAdmission.Url.Punycode
/-! Domain names beyond ASCII. A name is mapped to its plain form, composed, and split at its dots.
    Each label then has to be well formed: it does not begin with a mark, joiners stand only where they
    matter, and no character is one that would end a host. A label in transport form has to decode to
    a label that is already in plain form. If any label is written from right to left, the directions
    within every label have to agree. -/

namespace AdAdmission
namespace Url

open Unicode

/-! ### Plain form -/

/-- The characters of ASCII that no domain name holds: controls, the space, and those with a meaning
    in an address. -/
def isForbiddenInDomain (c : Char) : Bool :=
  c.val ≤ 0x20 || c.val == 0x7F || "%#/:<>?@[\\]^|".toList.contains c

/-- The mapped and composed form of a name, when each of its characters has a place in one. -/
def plainForm? (cs : List Char) : Option (List Char) := do
  let mapped ← cs.mapM mapChar?
  let plain := composed mapped.flatten
  if plain.any isForbiddenInDomain then none else some plain

/-- The parts of a text between dots. -/
def splitDots : List Char → List (List Char)
  | [] => [[]]
  | c :: rest =>
    match splitDots rest with
    | [] => []
    | part :: parts => if c = '.' then [] :: part :: parts else (c :: part) :: parts

/-! ### Labels -/

/-- Every character is of ASCII. -/
def isAscii (cs : List Char) : Bool := cs.all fun c => c.val < 0x80

/-- The label that a label stands for: one in transport form is decoded, and what it decodes to must
    be in plain form already and hold more than ASCII. Labels that could not be transported are
    refused. -/
def decodedLabel? (label : List Char) : Option (List Char) :=
  match label with
  | 'x' :: 'n' :: '-' :: '-' :: body =>
    if isAscii body ∧ body.length ≤ 2000 then do
      let decoded ← Punycode.decode? body
      if isAscii decoded then none
      else if decoded.all (fun c => mapChar? c == some [c]) ∧ composed decoded = decoded then
        some decoded
      else none
    else none
  | _ => if isAscii label ∨ label.length ≤ 1000 then some label else none

/-- The combining class of the marks that suppress a vowel. -/
def viramaClass : Nat := 9

/-- The first character that is not transparent joins in one of the given ways. -/
def joins (ways : List JoiningType) : List Char → Bool
  | [] => false
  | c :: rest =>
    match joiningType? c with
    | none => false
    | some t => ways.contains t || (t == .transparent && joins ways rest)

/-- Joiners stand where they matter: after a mark that suppresses a vowel, or for the non-joiner
    between characters that would join across it. The characters before are given in reverse. -/
def joinersFit (before : List Char) : List Char → Bool
  | [] => true
  | c :: rest =>
    let fits :=
      if c = '\u200c' ∨ c = '\u200d' then
        match before with
        | [] => false
        | d :: _ =>
          combiningClass d == viramaClass ||
            (c == '\u200c' && joins [.left, .dual] before && joins [.right, .dual] rest)
      else true
    fits && joinersFit (c :: before) rest

/-- The label does not begin with a mark, and its joiners are in place. -/
def isWellFormedLabel (label : List Char) : Bool :=
  match label with
  | [] => true
  | c :: _ => !isMark c && joinersFit [] label

/-! ### Directions -/

/-- The character belongs to text written from right to left. -/
def isRightToLeft (c : Char) : Bool :=
  match direction c with
  | .right | .arabicLetter | .arabicNumber => true
  | _ => false

/-- The classes that may stand within a label of either direction. -/
def isNeutral : Direction → Bool
  | .europeanNumber | .europeanSeparator | .commonSeparator | .europeanTerminator => true
  | .otherNeutral | .boundaryNeutral | .nonspacingMark => true
  | _ => false

/-- The directions within a label agree. It begins with a letter, whose direction is that of the label;
    letters of the other direction do not occur; it ends, marks aside, with a letter or a number; and a
    label from right to left does not mix the two kinds of numbers. -/
def directionsAgree (label : List Char) : Bool :=
  match label with
  | [] => true
  | first :: tail =>
    let body := (tail.map direction).reverse.dropWhile (· == .nonspacingMark)
    match direction first with
    | .left =>
      body.all (fun d => d == .left || isNeutral d) &&
        (match body with
          | [] => true
          | d :: _ => d == .left || d == .europeanNumber)
    | .right | .arabicLetter =>
      body.all (fun d => d == .right || d == .arabicLetter || d == .arabicNumber || isNeutral d) &&
        (match body with
          | [] => true
          | d :: _ => d == .right || d == .arabicLetter || d == .arabicNumber || d == .europeanNumber) &&
        !(body.contains .arabicNumber && body.contains .europeanNumber)
    | _ => false

/-! ### Names -/

/-- The labels of a domain name in plain form, when the name is well formed. -/
def domainLabels? (cs : List Char) : Option (List (List Char)) := do
  let labels := splitDots (← plainForm? cs)
  let decoded ← labels.mapM decodedLabel?
  if decoded.all isWellFormedLabel ∧
      (decoded.any (·.any isRightToLeft) → decoded.all directionsAgree) then
    some labels
  else none

end Url
end AdAdmission
