import AdAdmission.Rule.Record
import AdAdmission.RuleSet
/-! Rule sets in JSON documents. A document without rules is the empty rule set. A document that can be
    read is validated too. -/

namespace AdAdmission
namespace RuleSet

/-- The JSON form of a rule set. -/
def toJson (s : RuleSet) : Json := .ofMembers [("rules", .array (s.rules.map NamedRule.toJson))]

/-- Reads the rules of a rule set. -/
def rulesOfJson? : Json → Option (List NamedRule)
  | .array items => items.mapM NamedRule.ofJson?
  | _ => none

/-- Reads a rule set. -/
def ofJson? (j : Json) : Option RuleSet := do
  match ← j.fields? ["rules"] with
  | [none] => some ⟨[]⟩
  | [some rules] => (rulesOfJson? rules).map .mk
  | _ => none

/-- Reads and validates the JSON text of a rule set. -/
def ofJsonText (text : String) : Except RuleSetError RuleSet :=
  match (Json.parse? text).bind ofJson? with
  | some s => s.validated
  | none => .error .unreadable

end RuleSet
end AdAdmission
