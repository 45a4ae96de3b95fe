import AdAdmission.Rule.Record
import AdAdmission.RuleSet
import AdAdmission.Yaml.Document
/-! Rule sets in YAML documents. They have the same shape as in JSON documents. Nothing at all stands for
    the empty rule set and for no rules. The name of a rule is the text of any scalar, so it may look
    like a number. -/

namespace AdAdmission
open Yaml

namespace NamedRule

/-- The depth to which the fields of a named rule in a YAML document may nest. -/
def yamlRoom : Nat := 125

/-- Reads a named rule. All its fields besides the name are read whole, also those that belong to no
    kind of rule. -/
def ofNode (d : Document) (n : Node) : Visit NamedRule := do
  match ← d.follow n with
  | .mapping _ entries =>
    let fields ← d.fields entries
    let name ← match Fields.get? fields nameField with
      | some (some n) => d.text n
      | _ => failure
    let rest ← (fields.filter (·.1 != nameField)).mapM fun (k, n) =>
      return (k, ← d.value yamlRoom n)
    match ruleOf? rest with
    | some rule => return ⟨name, rule⟩
    | none => failure
  | _ => failure

end NamedRule

namespace RuleSet

/-- Reads the rules of a rule set. -/
def rulesOfNode (d : Document) (n : Node) : Visit (List NamedRule) := do
  match ← d.follow n with
  | .sequence _ items => items.mapM (NamedRule.ofNode d)
  | n => if n.isEmpty then return [] else failure

/-- Reads a rule set. -/
def ofNode (d : Document) (n : Node) : Visit RuleSet := do
  match ← d.follow n with
  | .mapping _ entries =>
    match Fields.get? (← d.fields entries) "rules" with
    | some (some rules) => return ⟨← rulesOfNode d rules⟩
    | some none => return ⟨[]⟩
    | none => failure
  | n => if n.isEmpty then return ⟨[]⟩ else failure

/-- Reads the YAML text of a rule set. -/
def ofYaml? (text : String) : Option RuleSet :=
  (Document.parse? text).bind fun d => d.visit (ofNode d d.root)

/-- Reads and validates the YAML text of a rule set. -/
def ofYamlText (text : String) : Except RuleSetError RuleSet :=
  match ofYaml? text with
  | some s => s.validated
  | none => .error .unreadable

end RuleSet
end AdAdmission
