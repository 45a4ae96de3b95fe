import AdAdmission.Chain
import AdAdmission.Value
import AdAdmission.Json.Printer
import AdAdmission.Json.Reader
/-! Rules in documents. A rule carries its kind as a tag among its fields, anywhere, or as the first item
    of an array. A named rule is one object with the name and the rule's own fields side by side. A
    scope that is left out is no scope, and a confirmation that is left out is the view. -/

namespace AdAdmission

/-! ### Kinds of rules -/

/-- The kind of a rule. -/
inductive RuleKind where
  | perWindowCap
  | minimumInterval
  | perAdCap
  | perCreativeSetCap
  | conversionExclusion
deriving DecidableEq

namespace RuleKind

/-- Every kind of rule, in the order of declaration. -/
def all : List RuleKind :=
  [perWindowCap, minimumInterval, perAdCap, perCreativeSetCap, conversionExclusion]

/-- The name a kind of rule is written by. -/
def name : RuleKind → String
  | perWindowCap => "per_window_cap"
  | minimumInterval => "minimum_interval"
  | perAdCap => "per_ad_cap"
  | perCreativeSetCap => "per_creative_set_cap"
  | conversionExclusion => "conversion_exclusion"

/-- The kind of rule with the given name. -/
def ofName? (text : String) : Option RuleKind := all.find? (fun k => k.name == text)

/-- The names of the fields of a kind of rule, in order. -/
def fieldNames : RuleKind → List String
  | perWindowCap => ["window_secs", "max_count", "ad_kind", "confirmation_kind"]
  | minimumInterval => ["min_gap_secs", "ad_kind", "confirmation_kind"]
  | perAdCap => ["window_secs", "max_count", "confirmation_kind"]
  | perCreativeSetCap => ["window_secs", "max_count", "confirmation_kind"]
  | conversionExclusion => []

theorem ofName?_name (k : RuleKind) : ofName? k.name = some k := by cases k <;> decide

end RuleKind

/-! ### Rules -/

/-- A cap: a whole number, at least one. -/
def Value.cap? : Value → Option Cap
  | .int n => Cap.ofNat? n.toNat
  | _ => none

/-- A scope, which may be missing or null. -/
def Value.scope? : Option Value → Option (Option AdKind)
  | none => some none
  | some .null => some none
  | some v => v.adKind?.map some

/-- A counted confirmation: the view where it is missing. -/
def Value.counted? : Option Value → Option ConfirmationKind
  | none => some .viewed
  | some v => v.confirmationKind?

namespace Rule

/-- The name of the field that tells the kind of a rule. -/
def tagName : String := "kind"

/-- The kind of a rule. -/
def kind : Rule → RuleKind
  | perWindowCap .. => .perWindowCap
  | minimumInterval .. => .minimumInterval
  | perAdCap .. => .perAdCap
  | perCreativeSetCap .. => .perCreativeSetCap
  | conversionExclusion => .conversionExclusion

/-- The JSON forms of the values of a rule's fields, in order. -/
def contents : Rule → List Json
  | perWindowCap window cap scope counted =>
    [.ofNat window.toNat, .ofNat cap.count.toNat, scopeJson scope, .ofText counted.name]
  | minimumInterval gap scope counted =>
    [.ofNat gap.toNat, scopeJson scope, .ofText counted.name]
  | perAdCap window cap counted =>
    [.ofNat window.toNat, .ofNat cap.count.toNat, .ofText counted.name]
  | perCreativeSetCap window cap counted =>
    [.ofNat window.toNat, .ofNat cap.count.toNat, .ofText counted.name]
  | conversionExclusion => []
where
  /-- The JSON form of a scope. -/
  scopeJson : Option AdKind → Json
    | none => .null
    | some kind => .ofText kind.name

/-- The members of the JSON form of a rule: the tag, then its fields. -/
def members (r : Rule) : List (String × Json) :=
  (tagName, .ofText r.kind.name) :: r.kind.fieldNames.zip r.contents

/-- The JSON form of a rule. -/
def toJson (r : Rule) : Json := .ofMembers r.members

/-- The rule of a kind from the values of its fields. -/
def ofValues? : RuleKind → List (Option Value) → Option Rule
  | .perWindowCap, [window, cap, scope, counted] => do
    return .perWindowCap (← window.bind Value.word?) (← cap.bind Value.cap?) (← Value.scope? scope)
      (← Value.counted? counted)
  | .minimumInterval, [gap, scope, counted] => do
    return .minimumInterval (← gap.bind Value.word?) (← Value.scope? scope) (← Value.counted? counted)
  | .perAdCap, [window, cap, counted] => do
    return .perAdCap (← window.bind Value.word?) (← cap.bind Value.cap?) (← Value.counted? counted)
  | .perCreativeSetCap, [window, cap, counted] => do
    return .perCreativeSetCap (← window.bind Value.word?) (← cap.bind Value.cap?)
      (← Value.counted? counted)
  | .conversionExclusion, [] => some .conversionExclusion
  | _, _ => none

/-- The rule of a kind from named fields. Fields that belong to other kinds are passed over. -/
def ofFields? (kind : RuleKind) (fields : Fields Value) : Option Rule :=
  (fields.select? kind.fieldNames).bind (ofValues? kind)

/-- Reads a rule. -/
def ofValue? : Value → Option Rule
  | .list (tag :: items) => do
    let kind ← tag.text?.bind RuleKind.ofName?
    ofValues? kind (← Fields.inOrder? kind.fieldNames items)
  | v => do
    let fields ← v.fields?
    let kind ← (← (← fields.get? tagName)).text?.bind RuleKind.ofName?
    ofFields? kind fields

/-- The depth to which a rule may nest that is read by itself. -/
def room : Nat := 127

/-- Reads a rule. -/
def ofJson? (j : Json) : Option Rule := (j.dynamic? room).bind ofValue?

/-- Reads the JSON text of a rule. -/
def parse? (text : String) : Option Rule := (Json.parse? text).bind ofJson?

end Rule

/-! ### Named rules -/

namespace NamedRule

/-- The name of the field with the name of the rule. -/
def nameField : String := "name"

/-- The JSON form of a named rule: the name, then the members of the rule. -/
def toJson (r : NamedRule) : Json := .ofMembers ((nameField, .ofText r.name) :: r.rule.members)

/-- The rule of named fields, whose tag gives the kind by its name or by its place in the order of
    declaration. -/
def ruleOf? (fields : Fields Value) : Option Rule := do
  let tag ← (← fields.get? Rule.tagName)
  Rule.ofFields? (← tag.member? RuleKind.ofName? RuleKind.all) fields

/-- The depth to which the fields of a named rule may nest. -/
def room : Nat := 124

/-- Reads a named rule. All its fields besides the name are read whole, also those that belong to no
    kind of rule. -/
def ofJson? : Json → Option NamedRule
  | .object members => do
    let fields ← Json.members? members
    let name ← (← (← Fields.get? fields nameField)).text?
    let rest ← (fields.filter (·.1 != nameField)).mapM fun (k, j) => (j.dynamic? room).map (k, ·)
    return ⟨name, ← ruleOf? rest⟩
  | _ => none

end NamedRule

/-- The JSON form of a denial. -/
def Denial.toJson (d : Denial) : Json :=
  .ofMembers [("rule", .ofText d.rule), ("detail", .ofText d.detail)]

end AdAdmission
