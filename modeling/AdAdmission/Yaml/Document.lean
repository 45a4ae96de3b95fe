import AdAdmission.Yaml.Node
import AdAdmission.Yaml.Scalar.Meaning
/-! Documents of YAML. References are followed as the document is read, so a small text can stand for a
    large value. Their number is limited by the size of the document, and so is the depth of what is
    read as a value. -/

namespace AdAdmission
namespace Yaml

/-- A document with its anchors. -/
structure Document where
  root : Node
  /-- The nodes with anchors, last one first. Two of them may have one number; the first counts. -/
  anchored : List (Nat × Node)

/-- Reads the document of a text. -/
def Document.parse? (text : String) : Option Document :=
  (Node.parse? text).map fun root => ⟨root, root.anchored.reverse⟩

/-- A reading of a part of a document, within a number of references that may be followed. -/
abbrev Visit := StateT Nat Option

namespace Document

/-- The number of references that may be followed: 100 for each mark of the document. -/
def references (d : Document) : Nat := 100 * d.root.size

/-- Reads a part of a document. -/
def visit {α : Type} (d : Document) (v : Visit α) : Option α := (v.run d.references).map (·.1)

/-- The node that a reference stands for, or the node itself. -/
def follow (d : Document) : Node → Visit Node
  | .reference anchor => do
    match ← get with
    | 0 => failure
    | left + 1 =>
      set left
      match d.anchored.find? (·.1 == anchor) with
      | some (_, n) => return n
      | none => failure
  | n => return n

/-- The text of a scalar, whatever its tag. -/
def text (d : Document) (n : Node) : Visit String := do
  match ← d.follow n with
  | .scalar _ _ text => return text
  | _ => failure

/-- The entries of a mapping as fields. Their names are texts of scalars. -/
def fields (d : Document) (entries : List (Node × Node)) : Visit (Fields Node) :=
  entries.mapM fun (k, v) => return (← d.text k, v)

/-- The value of a node, which may nest to the given depth. A tag for the text's own use is refused. -/
def value (d : Document) (room : Nat) (n : Node) : Visit Value := do
  match ← d.follow n with
  | .reference _ => failure
  | .scalar p plain text => scalarValue? p.tag plain text
  | .sequence p items =>
    match room with
    | 0 => failure
    | room + 1 =>
      if p.tag.any isOwnTag then failure else return .list (← items.mapM (d.value room))
  | .mapping p entries =>
    match room with
    | 0 => failure
    | room + 1 =>
      if p.tag.any isOwnTag then failure
      else return .map (← entries.mapM fun (k, v) => return (← d.value room k, ← d.value room v))

end Document
end Yaml
end AdAdmission
