import AdAdmission.Yaml.Layout
/-! Nodes of YAML. A document is one node: a scalar, a sequence, a mapping, or a reference to a node with
    an anchor. Anchors are numbered as they come. A name that comes again refers to the later node from
    there on. -/

namespace AdAdmission
namespace Yaml

/-- What a node may carry besides its content. -/
structure Properties where
  /-- The number of the anchor. -/
  anchor : Option Nat
  tag : Option Tag
deriving DecidableEq

/-- No properties. -/
def Properties.none : Properties := ⟨.none, .none⟩

/-- A node. -/
inductive Node where
  /-- Stands for the node whose anchor has the number. -/
  | reference (anchor : Nat)
  | scalar (properties : Properties) (plain : Bool) (text : String)
  | sequence (properties : Properties) (items : List Node)
  | mapping (properties : Properties) (entries : List (Node × Node))

namespace Node

/-- Stands where a node is missing. -/
def empty : Node := scalar .none true ""

/-- A plain scalar without text. -/
def isEmpty : Node → Bool
  | scalar _ plain text => plain && text == ""
  | _ => false

/-- The number of the anchor of a node. -/
def anchor : Node → Option Nat
  | reference _ => none
  | scalar p _ _ => p.anchor
  | sequence p _ => p.anchor
  | mapping p _ => p.anchor

mutual

/-- The number of marks that a node takes: one for a scalar or a reference, and two around the items
    or entries. -/
def size : Node → Nat
  | reference _ => 1
  | scalar .. => 1
  | sequence _ items => 2 + sizeItems items
  | mapping _ entries => 2 + sizeEntries entries

/-- The marks of items. -/
def sizeItems : List Node → Nat
  | [] => 0
  | n :: rest => n.size + sizeItems rest

/-- The marks of entries. -/
def sizeEntries : List (Node × Node) → Nat
  | [] => 0
  | (k, v) :: rest => k.size + v.size + sizeEntries rest

end

mutual

/-- The nodes with anchors in a node, itself included, in the order of their starts. -/
def anchored (n : Node) : List (Nat × Node) :=
  (n.anchor.map fun a => (a, n)).toList ++
    match n with
    | reference _ => []
    | scalar .. => []
    | sequence _ items => anchoredItems items
    | mapping _ entries => anchoredEntries entries

/-- The nodes with anchors in items. -/
def anchoredItems : List Node → List (Nat × Node)
  | [] => []
  | n :: rest => n.anchored ++ anchoredItems rest

/-- The nodes with anchors in entries. -/
def anchoredEntries : List (Node × Node) → List (Nat × Node)
  | [] => []
  | (k, v) :: rest => k.anchored ++ v.anchored ++ anchoredEntries rest

end

end Node

/-! ### Reading tokens -/

/-- What is left of the tokens, and what the ones before have declared. -/
structure Reading where
  tokens : List Token
  /-- The bytes that the handles of tags stand for. -/
  handles : List (List Char × Tag)
  /-- The numbers of the anchors. -/
  anchors : List (List Char × Nat)

/-- A part of the reading of tokens. -/
abbrev Read := StateT Reading Option

namespace Read

/-- The token that comes first. -/
def peek : Read (Option Token) := do return (← get).tokens.head?

/-- Drops the token that comes first. -/
def skip : Read Unit := modify fun r => { r with tokens := r.tokens.drop 1 }

/-- Drops the token that comes first when it is the given one, and tells whether it was. -/
def takes (t : Token) : Read Bool := do
  if (← peek) = some t then
    skip
    return true
  else return false

/-- The token that comes first is one of the given ones. -/
def comesOneOf (ts : List Token) : Read Bool := do
  match ← peek with
  | some t => return ts.contains t
  | none => return false

/-- Numbers a new anchor by the count of the names so far. A name that comes again gets a new number,
    but does not count again. -/
def newAnchor (name : List Char) : Read Nat := do
  let r ← get
  let number := r.anchors.length
  set { r with anchors := (name, number) :: r.anchors.filter (·.1 != name) }
  return number

/-- The tag of a handle and the rest. -/
def resolve (handle : List Char) (rest : Tag) : Read Tag := do
  if handle.isEmpty then return rest
  else
    match (← get).handles.find? (·.1 == handle) with
    | some (_, bytes) => return bytes ++ rest
    | none => failure

/-- Reads an anchor, if there is one. -/
def anchor : Read (Option (List Char)) := do
  match ← peek with
  | some (.anchor name) =>
    skip
    return some name
  | _ => return none

/-- Reads a tag, if there is one. -/
def tag : Read (Option Tag) := do
  match ← peek with
  | some (.tag handle rest) =>
    skip
    return some (← resolve handle rest)
  | _ => return none

/-- Reads an anchor and a tag in either order. -/
def properties : Read Properties := do
  let name ← anchor
  let tag ← tag
  let name ← if name.isNone then anchor else pure name
  match name with
  | some name => return ⟨← newAnchor name, tag⟩
  | none => return ⟨none, tag⟩

mutual

/-- Reads a node, or an empty one when a token comes that cannot begin one here. A sequence at the
    column of the mapping around it has no start of its own. -/
def nodeUnless (stops : List Token) (block bare : Bool) : Nat → Read Node
  | 0 => failure
  | fuel + 1 => do
    if ← comesOneOf stops then return .empty
    else
      match ← peek with
      | some (.reference name) =>
        skip
        match (← get).anchors.find? (·.1 == name) with
        | some (_, number) => return .reference number
        | none => failure
      | _ =>
        let p ← properties
        match ← peek with
        | some .item =>
          if bare then return .sequence p (← bareItems fuel) else leaf p
        | some (.scalar plain text) =>
          skip
          let p := if p.tag = some [0x21] then { p with tag := none } else p
          return .scalar p plain (String.ofList text)
        | some .openSequence =>
          skip
          return .sequence p (← flowItems fuel)
        | some .openMapping =>
          skip
          return .mapping p (← flowEntries fuel)
        | some .blockSequence =>
          if block then
            skip
            return .sequence p (← blockItems fuel)
          else leaf p
        | some .blockMapping =>
          if block then
            skip
            return .mapping p (← blockEntries fuel)
          else leaf p
        | _ => leaf p
where
  /-- The node of properties alone, of which there has to be one. -/
  leaf (p : Properties) : Read Node := if p = .none then failure else return .scalar p true ""

/-- Reads the items of a block sequence and its end. -/
def blockItems : Nat → Read (List Node)
  | 0 => failure
  | fuel + 1 => do
    if ← takes .item then
      let item ← nodeUnless [.item, .blockEnd] true false fuel
      return item :: (← blockItems fuel)
    else if ← takes .blockEnd then return []
    else failure

/-- Reads the items of a sequence at the column of the mapping around it. -/
def bareItems : Nat → Read (List Node)
  | 0 => failure
  | fuel + 1 => do
    if ← takes .item then
      let item ← nodeUnless [.item, .key, .value, .blockEnd] true false fuel
      return item :: (← bareItems fuel)
    else return []

/-- Reads the entries of a block mapping and its end. -/
def blockEntries : Nat → Read (List (Node × Node))
  | 0 => failure
  | fuel + 1 => do
    if ← takes .key then
      let key ← nodeUnless [.key, .value, .blockEnd] true true fuel
      let value ←
        if ← takes .value then nodeUnless [.key, .value, .blockEnd] true true fuel
        else pure .empty
      return (key, value) :: (← blockEntries fuel)
    else if ← takes .blockEnd then return []
    else failure

/-- Reads the items of a sequence in brackets and the closing bracket. An item may be a single entry
    without braces. -/
def flowItems : Nat → Read (List Node)
  | 0 => failure
  | fuel + 1 => do
    if ← takes .closeSequence then return []
    else
      let item ← if ← takes .key then flowPair fuel else nodeUnless [] false false fuel
      if ← takes .comma then return item :: (← flowItems fuel)
      else if ← takes .closeSequence then return [item]
      else failure

/-- Reads a single entry without braces. A sign right after that of the key is passed over. -/
def flowPair : Nat → Read Node
  | 0 => failure
  | fuel + 1 => do
    let key ←
      if ← comesOneOf [.value, .comma, .closeSequence] then
        skip
        pure Node.empty
      else nodeUnless [] false false fuel
    let value ←
      if ← takes .value then nodeUnless [.comma, .closeSequence] false false fuel
      else pure .empty
    return .mapping .none [(key, value)]

/-- Reads the entries of a mapping in braces and the closing brace. -/
def flowEntries : Nat → Read (List (Node × Node))
  | 0 => failure
  | fuel + 1 => do
    if ← takes .closeMapping then return []
    else
      let entry ← flowEntry fuel
      if ← takes .comma then return entry :: (← flowEntries fuel)
      else if ← takes .closeMapping then return [entry]
      else failure

/-- Reads an entry of a mapping in braces. Without a key's sign it has no value. -/
def flowEntry : Nat → Read (Node × Node)
  | 0 => failure
  | fuel + 1 => do
    if ← takes .key then
      let key ← nodeUnless [.value, .comma, .closeMapping] false false fuel
      let value ←
        if ← takes .value then nodeUnless [.comma, .closeMapping] false false fuel
        else pure .empty
      return (key, value)
    else return (← nodeUnless [] false false fuel, .empty)

end

/-! ### Documents -/

/-- The handles that every document has. -/
def standardHandles : List (List Char × Tag) :=
  [("!".toList, "!".toUTF8.toList), ("!!".toList, "tag:yaml.org,2002:".toUTF8.toList)]

/-- Reads the directives of a document: one version at most, which is 1.1 or 1.2, and each handle once.
    Tells whether there was any. -/
def directives (versioned : Bool) : List Token → Option (List (List Char × Tag) × List Token)
  | .version major minor :: rest =>
    if versioned ∨ major ≠ 1 ∨ (minor ≠ 1 ∧ minor ≠ 2) then none else directives true rest
  | .handle name bytes :: rest => do
    let (handles, rest) ← directives versioned rest
    if handles.any (·.1 == name) then none else some ((name, bytes) :: handles, rest)
  | rest => some ([], rest)

/-- A token that does not begin the content of a document. -/
def endsDocument : Token → Bool
  | .version .. => true
  | .handle .. => true
  | .documentStart => true
  | .documentEnd => true
  | _ => false

/-- Reads the content of a document, which may be empty after the mark of its start, and the marks of
    its end. -/
def content (marked : Bool) : Read Node := do
  let tokens := (← get).tokens
  let root ←
    if marked && (match tokens.head? with
      | some t => endsDocument t
      | none => true) then pure .empty
    else nodeUnless [] true false (4 * tokens.length + 4)
  if (← get).tokens.all (· = .documentEnd) then return root else failure

end Read

/-- A text with one document, or none. -/
def Node.ofTokens? (tokens : List Token) : Option Node := do
  if tokens.isEmpty then return .empty
  else
    let (handles, rest) ← Read.directives false tokens
    let run (marked : Bool) (tokens : List Token) : Option Node :=
      (Read.content marked |>.run ⟨tokens, handles ++ Read.standardHandles, []⟩).map (·.1)
    match rest with
    | .documentStart :: rest => run true rest
    | _ => if rest.length = tokens.length then run false rest else none

/-- Reads the node of a text with one document at most. A text without a document is an empty node. -/
def Node.parse? (text : String) : Option Node := (tokens? text).bind Node.ofTokens?

end Yaml
end AdAdmission
