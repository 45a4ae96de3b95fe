import AdAdmission.Yaml.Scalar.Block
import AdAdmission.Yaml.Scalar.Plain
import AdAdmission.Yaml.Scalar.Quoted
import AdAdmission.Yaml.Token
/-! The layout of a text. Outside brackets and braces the structure is told by indentation: a block opens
    at the first column of its items or keys and closes before a token left of it. A key needs no sign of
    its own, so the place of every token that may be a key is kept until a colon tells. A key within a
    block stands on one line and is at most 1024 characters long. -/

namespace AdAdmission
namespace Yaml

/-- A place where a key may have begun. -/
structure PossibleKey where
  /-- Nothing but a key may stand here. -/
  required : Bool
  /-- The number of tokens before it. -/
  position : Nat
  line : Nat
  column : Nat
  index : Nat

/-- What is known of a text up to a place. -/
structure Layout where
  tokens : Array Token
  /-- The columns of the open blocks, innermost first. -/
  indents : List Nat
  /-- The possible key between the innermost brackets. -/
  key : Option PossibleKey
  /-- The possible keys between the brackets around these, innermost first. -/
  outerKeys : List (Option PossibleKey)
  /-- A key may begin here. -/
  keyAllowed : Bool

namespace Layout

/-- The start of a text. -/
def start : Layout := ⟨#[], [], none, [], true⟩

/-- The place is within brackets or braces. -/
def inFlow (s : Layout) : Bool := !s.outerKeys.isEmpty

/-- The least column that is within the innermost block. -/
def margin (s : Layout) : Nat :=
  match s.indents with
  | [] => 0
  | i :: _ => i + 1

/-- Adds a token. -/
def push (s : Layout) (t : Token) : Layout := { s with tokens := s.tokens.push t }

/-! ### Blocks -/

/-- The blocks that stay open when those at a column or right of it close, and the tokens with their
    ends. -/
def closeBlocks (column : Nat) : List Nat → Array Token → List Nat × Array Token
  | [], ts => ([], ts)
  | i :: rest, ts =>
    if column ≤ i then closeBlocks column rest (ts.push .blockEnd) else (i :: rest, ts)

/-- Closes the blocks at a column and right of it. Within brackets, indentation does not count. -/
def close (s : Layout) (column : Nat) : Layout :=
  if s.inFlow then s
  else
    let (indents, tokens) := closeBlocks column s.indents s.tokens
    { s with indents := indents, tokens := tokens }

/-- Opens a block at a column unless it is open. The token with its start goes to a position. -/
def openAt (s : Layout) (column position : Nat) (t : Token) : Layout :=
  if !s.inFlow && s.margin ≤ column then
    { s with
      indents := column :: s.indents
      tokens := s.tokens.insertIdxIfInBounds position t }
  else s

/-! ### Keys -/

/-- Forgets the possible key, which must not be a required one. -/
def dropKey? (s : Layout) : Option Layout :=
  match s.key with
  | some k => if k.required then none else some { s with key := none }
  | none => some s

/-- Notes a possible key, if one is allowed. It is required at the column of the innermost block. -/
def noteKey? (s : Layout) (cs : Cells) : Option Layout :=
  match s.keyAllowed, cs with
  | true, c :: _ => do
    let s ← s.dropKey?
    let required := !s.inFlow && s.indents.head? == some c.column
    return { s with key := some ⟨required, s.tokens.size, c.line, c.column, c.index⟩ }
  | _, _ => some s

/-- A possible key as it is seen from a later cell: it is none when the cell is on another line or more
    than 1024 characters ahead. A required key must not end so. -/
def expire? (c : Cell) : Option PossibleKey → Option (Option PossibleKey)
  | some k =>
    if k.line < c.line ∨ k.index + 1024 < c.index then
      if k.required then none else some none
    else some (some k)
  | none => some none

/-- Forgets the possible keys that a cell is too far from. -/
def expireKeys? (s : Layout) (cs : Cells) : Option Layout :=
  match cs with
  | c :: _ => do
    return { s with key := ← expire? c s.key, outerKeys := ← s.outerKeys.mapM (expire? c) }
  | [] => some s

/-! ### Signs -/

/-- Marks the start or the end of a document, which closes all blocks. -/
def documentMark? (s : Layout) (t : Token) : Option Layout := do
  let s ← (s.close 0).dropKey?
  return { s with keyAllowed := false }.push t

/-- Opens brackets or braces. -/
def openFlow? (s : Layout) (t : Token) (cs : Cells) : Option Layout := do
  let s ← s.noteKey? cs
  return { s with key := none, outerKeys := s.key :: s.outerKeys, keyAllowed := true }.push t

/-- Closes brackets or braces. -/
def closeFlow? (s : Layout) (t : Token) : Option Layout := do
  let s ← s.dropKey?
  let s := match s.outerKeys with
    | key :: outer => { s with key := key, outerKeys := outer }
    | [] => s
  return { s with keyAllowed := false }.push t

/-- A comma. -/
def comma? (s : Layout) : Option Layout := do
  let s ← s.dropKey?
  return { s with keyAllowed := true }.push .comma

/-- Opens a block at a sign that stands where a key might, unless it is open. -/
def openHere? (s : Layout) (t : Token) (cs : Cells) : Option Layout :=
  if s.inFlow then some s
  else if s.keyAllowed then some (s.openAt (columnOf cs) s.tokens.size t)
  else none

/-- The hyphen of an item. -/
def item? (s : Layout) (cs : Cells) : Option Layout := do
  let s ← (← s.openHere? .blockSequence cs).dropKey?
  return { s with keyAllowed := true }.push .item

/-- The question mark of a key. -/
def key? (s : Layout) (cs : Cells) : Option Layout := do
  let s ← (← s.openHere? .blockMapping cs).dropKey?
  return { s with keyAllowed := !s.inFlow }.push .key

/-- The colon of a value. After a possible key it tells that this is one. -/
def value? (s : Layout) (cs : Cells) : Option Layout :=
  match s.key with
  | some k =>
    let s := { s with tokens := s.tokens.insertIdxIfInBounds k.position .key }
    let s := s.openAt k.column k.position .blockMapping
    some ({ s with key := none, keyAllowed := false }.push .value)
  | none => do
    let s ← s.openHere? .blockMapping cs
    return { s with keyAllowed := !s.inFlow }.push .value

/-- A token that may be a key or begin one. -/
def content? (s : Layout) (cs : Cells) (t : Token) : Option Layout := do
  let s ← s.noteKey? cs
  return { s with keyAllowed := false }.push t

/-- A block scalar, which is no key. -/
def blockScalar? (s : Layout) (t : Token) : Option Layout := do
  let s ← s.dropKey?
  return { s with keyAllowed := true }.push t

/-! ### Tokens -/

/-- A plain scalar may begin here. -/
def startsPlain (flow : Bool) (cs : Cells) : Bool :=
  let c := charAt 0 cs
  let signs := "-?:,[]\x7b\x7d#&*!|>'\"%@`".toList
  (!isGap c && !signs.contains c) || (c == '-' && !isBlank (charAt 1 cs)) ||
    (!flow && (c == '?' || c == ':') && !isGap (charAt 1 cs))

/-- Takes the token at a place that is no white space. -/
def token? (s : Layout) (cs : Cells) : Option (Layout × Cells) :=
  let c := charAt 0 cs
  let flow := s.inFlow
  let sign (s : Option Layout) : Option (Layout × Cells) := s.map (·, cs.drop 1)
  if columnOf cs = 0 ∧ c = '%' then do
    let (t, cs) ← directive? (cs.drop 1)
    return (← s.documentMark? t, cs)
  else if isMarked '-' cs then (s.documentMark? .documentStart).map (·, cs.drop 3)
  else if isMarked '.' cs then (s.documentMark? .documentEnd).map (·, cs.drop 3)
  else if c = '[' then sign (s.openFlow? .openSequence cs)
  else if c = '\x7b' then sign (s.openFlow? .openMapping cs)
  else if c = ']' then sign (s.closeFlow? .closeSequence)
  else if c = '\x7d' then sign (s.closeFlow? .closeMapping)
  else if c = ',' then sign s.comma?
  else if c = '-' ∧ isGap (charAt 1 cs) then sign (s.item? cs)
  else if c = '?' ∧ (flow ∨ isGap (charAt 1 cs)) then sign (s.key? cs)
  else if c = ':' ∧ (flow ∨ isGap (charAt 1 cs)) then sign (s.value? cs)
  else if c = '*' then do
    let (name, rest) ← anchorName? (cs.drop 1)
    return (← s.content? cs (.reference name), rest)
  else if c = '&' then do
    let (name, rest) ← anchorName? (cs.drop 1)
    return (← s.content? cs (.anchor name), rest)
  else if c = '!' then do
    let (t, rest) ← tag? flow cs
    return (← s.content? cs t, rest)
  else if (c = '|' ∨ c = '>') ∧ ¬ flow then do
    let (text, rest) ← block? (c == '>') s.indents.head? (cs.drop 1)
    return (← s.blockScalar? (.scalar false text), rest)
  else if c = '\'' ∨ c = '"' then do
    let (text, rest) ← quoted? cs
    return (← s.content? cs (.scalar false text), rest)
  else if startsPlain flow cs then do
    let (text, endsLine, rest) ← plain? flow s.margin cs
    let s ← s.content? cs (.scalar true text)
    return ({ s with keyAllowed := endsLine }, rest)
  else none

/-- Passes over white space and comments. Outside brackets a key may begin on a new line. A tab is white
    space only where no key may begin. -/
def skipGap (flow : Bool) : (keyAllowed comment : Bool) → Cells → Bool × Cells
  | keyAllowed, _, [] => (keyAllowed, [])
  | keyAllowed, comment, c :: rest =>
    if isBreak c.char then skipGap flow (keyAllowed || !flow) false rest
    else if comment && c.char != endChar then skipGap flow keyAllowed true rest
    else if c.char = ' ' ∨ (c.char = '\t' ∧ (flow ∨ ¬ keyAllowed)) then
      skipGap flow keyAllowed false rest
    else if c.char = '#' then skipGap flow keyAllowed true rest
    else (keyAllowed, c :: rest)

/-- Takes the tokens from a place on. Each token takes a cell at least, so their number bounds the
    recursion. -/
def tokensFrom? : Nat → Layout → Cells → Option (Array Token)
  | 0, _, _ => none
  | fuel + 1, s, cs => do
    let (keyAllowed, cs) := skipGap s.inFlow s.keyAllowed false cs
    let s ← { s with keyAllowed := keyAllowed }.expireKeys? cs
    let s := s.close (columnOf cs + 1)
    if charAt 0 cs = endChar then
      let s ← (s.close 0).dropKey?
      return s.tokens
    else
      let (s, cs) ← s.token? cs
      tokensFrom? fuel s cs

end Layout

/-- The tokens of a text. -/
def tokens? (text : String) : Option (List Token) := do
  let cs ← cells? text
  return (← Layout.tokensFrom? (cs.length + 1) .start cs).toList

end Yaml
end AdAdmission
