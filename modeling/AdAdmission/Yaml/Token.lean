import AdAdmission.Text.Digits
import AdAdmission.Yaml.Cell
/-! Tokens of YAML: the marks that structure a text, written or implied by indentation, and the names,
    tags and scalars between them. Here are also the tokens that begin with a sign of their own: anchors,
    references to them, tags and directives. -/

namespace AdAdmission
namespace Yaml

/-- A tag as bytes. -/
abbrev Tag := List UInt8

/-- A token. -/
inductive Token where
  /-- A directive with the version that the text asks for. -/
  | version (major minor : Nat)
  /-- A directive that gives a handle the bytes which it stands for. -/
  | handle (name : List Char) (bytes : Tag)
  | documentStart
  | documentEnd
  | blockSequence
  | blockMapping
  /-- The end of a sequence or mapping that is told by indentation. -/
  | blockEnd
  | openSequence
  | closeSequence
  | openMapping
  | closeMapping
  /-- The hyphen before an item. -/
  | item
  | comma
  | key
  | value
  /-- A reference to the node with an anchor. -/
  | reference (name : List Char)
  | anchor (name : List Char)
  /-- A tag: the name of its handle, which is empty when the tag is spelled out, and the rest. -/
  | tag (handle : List Char) (rest : Tag)
  | scalar (plain : Bool) (text : List Char)
deriving DecidableEq

/-! ### Anchors -/

/-- Reads the name of an anchor or a reference, after its sign. -/
def anchorName? (cs : Cells) : Option (List Char × Cells) :=
  let (name, cs) := spanChars isNameChar cs
  if name.isEmpty then none
  else if isGap (charAt 0 cs) ∨ "?:,]\x7d%@`".toList.contains (charAt 0 cs) then some (name, cs)
  else none

/-! ### Tags -/

/-- A character that a tag may hold as it is. The commas and brackets are for tags that are spelled
    out. -/
def isTagChar (spelled : Bool) (c : Char) : Bool :=
  isNameChar c || ";/?:@&=+$.!~*'()".toList.contains c || (spelled && ",[]".toList.contains c)

/-- The number of octets that follow a leading octet of UTF-8. -/
def followers? (octet : Nat) : Option Nat :=
  if octet < 0x80 then some 0
  else if 0xC0 ≤ octet ∧ octet < 0xE0 then some 1
  else if 0xE0 ≤ octet ∧ octet < 0xF0 then some 2
  else if 0xF0 ≤ octet ∧ octet < 0xF8 then some 3
  else none

/-- Reads the bytes of a tag with so many octets due. An octet may be given by a percent sign and its
    hexadecimal digits, and those of one character come together. -/
def tagBytes? (spelled : Bool) (due : Nat) : Cells → Option (Tag × Cells)
  | [] => some ([], [])
  | c :: rest =>
    if c.char = '%' then
      match rest with
      | a :: b :: rest => do
        let octet := 16 * (← Text.hexValue? a.char) + (← Text.hexValue? b.char)
        let due ←
          if due = 0 then followers? octet
          else if 0x80 ≤ octet ∧ octet < 0xC0 then some (due - 1) else none
        let (bytes, cs) ← tagBytes? spelled due rest
        return (UInt8.ofNat octet :: bytes, cs)
      | _ => none
    else if 0 < due then none
    else if isTagChar spelled c.char then
      (tagBytes? spelled 0 rest).map fun (bytes, cs) => (UInt8.ofNat c.char.toNat :: bytes, cs)
    else some ([], c :: rest)

/-- Reads the bytes of a tag, of which there has to be one. An octet of zero ends the tag, though reading
    goes on. -/
def tagRest? (spelled : Bool) (cs : Cells) : Option (Tag × Cells) := do
  let (bytes, cs) ← tagBytes? spelled 0 cs
  if bytes.isEmpty then none else some (bytes.takeWhile (· != 0), cs)

/-- Reads a tag at its exclamation mark: spelled out between angle brackets, with a handle of its own
    between two exclamation marks, or with the first mark as handle. A lone mark is a tag too. -/
def tagParts? (cs : Cells) : Option (Token × Cells) :=
  if charAt 1 cs = '<' then do
    let (bytes, cs) ← tagRest? true (cs.drop 2)
    if charAt 0 cs = '>' then some (.tag [] bytes, cs.drop 1) else none
  else
    let (name, cs) := spanChars isNameChar (cs.drop 1)
    if charAt 0 cs = '!' then do
      let (bytes, cs) ← tagRest? false (cs.drop 1)
      return (.tag ('!' :: name ++ ['!']) bytes, cs)
    else do
      let (bytes, cs) ← tagBytes? false 0 cs
      match name.map (fun c => UInt8.ofNat c.toNat) ++ bytes.takeWhile (· != 0) with
      | [] => return (.tag [] [0x21], cs)
      | bytes => return (.tag ['!'] bytes, cs)

/-- Reads a tag. A gap comes after it, or within brackets a comma. -/
def tag? (flow : Bool) (cs : Cells) : Option (Token × Cells) := do
  let (t, cs) ← tagParts? cs
  if isGap (charAt 0 cs) || (flow && charAt 0 cs == ',') then some (t, cs) else none

/-! ### Directives -/

/-- Reads a number of at most nine digits. -/
def versionNumber? (cs : Cells) : Option (Nat × Cells) :=
  let (digits, cs) := spanChars Char.isDigit cs
  if digits.isEmpty ∨ 9 < digits.length then none else some (Text.valueOf digits, cs)

/-- Reads the numbers of a version. -/
def version? (cs : Cells) : Option (Token × Cells) := do
  let (major, cs) ← versionNumber? (skipBlanks cs)
  if charAt 0 cs = '.' then
    let (minor, cs) ← versionNumber? (cs.drop 1)
    return (.version major minor, cs)
  else none

/-- Reads a handle: an exclamation mark alone, or two of them around a name, which may be empty. -/
def handleName? (cs : Cells) : Option (List Char × Cells) :=
  if charAt 0 cs = '!' then
    let (name, cs) := spanChars isNameChar (cs.drop 1)
    if charAt 0 cs = '!' then some ('!' :: name ++ ['!'], cs.drop 1)
    else if name.isEmpty then some (['!'], cs)
    else none
  else none

/-- Reads a handle and the bytes which it stands for. -/
def handle? (cs : Cells) : Option (Token × Cells) := do
  let (name, cs) ← handleName? (skipBlanks cs)
  if isBlank (charAt 0 cs) then
    let (bytes, cs) ← tagRest? true (skipBlanks cs)
    if isGap (charAt 0 cs) then some (.handle name bytes, cs) else none
  else none

/-- Reads a directive after its percent sign, to the end of the line. -/
def directive? (cs : Cells) : Option (Token × Cells) := do
  let (name, cs) := spanChars isNameChar cs
  let (t, cs) ←
    if !isGap (charAt 0 cs) then none
    else if name = "YAML".toList then version? cs
    else if name = "TAG".toList then handle? cs
    else none
  return (t, ← skipLine? cs)

end Yaml
end AdAdmission
