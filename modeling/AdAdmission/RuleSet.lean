import AdAdmission.Chain
/-! Rule sets. A rule set lists named rules in the order of evaluation. It is valid when no name is
    blank, no name is given twice, and every window or gap is within bounds; the first violation is
    reported. -/

namespace AdAdmission

/-- Why a rule set was refused. -/
inductive RuleSetError where
  | emptyRuleName (position : Nat)
  | duplicateRuleName (name : String)
  | invalidWindow (rule : String) (seconds : UInt64)
  /-- The document is not a rule set. -/
  | unreadable
deriving DecidableEq

namespace RuleSet

/-- The longest window or gap in seconds: 400 days. -/
def maxWindow : UInt64 := 34560000

end RuleSet

/-- The wording of why a rule set was refused. -/
def RuleSetError.message : RuleSetError → String
  | emptyRuleName position => "rule at position " ++ toString position ++ " has an empty name"
  | duplicateRuleName name => "duplicate rule name \"" ++ name ++ "\""
  | invalidWindow rule seconds =>
    "rule \"" ++ rule ++ "\" has invalid duration " ++ toString seconds.toNat ++ "s (expected 1..=" ++
      toString RuleSet.maxWindow.toNat ++ "s)"
  | unreadable => "failed to parse rule configuration: document is not a rule set"

/-- Named rules in the order of evaluation. -/
structure RuleSet where
  rules : List NamedRule
deriving DecidableEq

namespace RuleSet

/-- A window or gap is at least one second and at most the longest. -/
def durationFault? (r : NamedRule) : Option RuleSetError :=
  match r.rule.duration? with
  | some seconds =>
    if 0 < seconds ∧ seconds ≤ maxWindow then none else some (.invalidWindow r.name seconds)
  | none => none

/-- The first fault of the rules from a position on, after rules with the given names. -/
def faultFrom (position : Nat) (seen : List String) : List NamedRule → Option RuleSetError
  | [] => none
  | r :: rest =>
    if Text.isBlank r.name then some (.emptyRuleName position)
    else if seen.contains r.name then some (.duplicateRuleName r.name)
    else
      match durationFault? r with
      | some e => some e
      | none => faultFrom (position + 1) (r.name :: seen) rest

/-- The first fault of a rule set. -/
def fault? (s : RuleSet) : Option RuleSetError := faultFrom 0 [] s.rules

/-- A rule set without fault. -/
def validated (s : RuleSet) : Except RuleSetError RuleSet :=
  match s.fault? with
  | some e => .error e
  | none => .ok s

/-- The chain of a valid rule set. -/
def chain (s : RuleSet) : Except RuleSetError Chain := s.validated.map (·.rules)

/-- The caps and the gap that the standard rules put on a surface. -/
def surfaceRules (kind : AdKind) (perHour perDay : Cap) (gap : Option UInt64) : List NamedRule :=
  [⟨kind.name ++ "_per_hour", .perHour kind perHour⟩, ⟨kind.name ++ "_per_day", .perDay kind perDay⟩] ++
    gap.toList.map fun gap => ⟨kind.name ++ "_minimum_wait", .waitBetween kind gap⟩

/-- The standard rules: no ad after it has converted, any ad once in ten minutes, and for every surface
    caps on an hour and on a day, with a wait between notifications and between new tab page ads. -/
def standard : RuleSet where
  rules :=
    [⟨"conversion_exclusion", .conversionExclusion⟩,
      ⟨"per_ad_minimum_gap", .perAdCap 600 ⟨1, by decide⟩ .viewed⟩] ++
    surfaceRules .notification ⟨2, by decide⟩ ⟨40, by decide⟩ (some 1800) ++
    surfaceRules .newTabPageAd ⟨4, by decide⟩ ⟨20, by decide⟩ (some 300) ++
    surfaceRules .inlineContentAd ⟨4, by decide⟩ ⟨20, by decide⟩ none ++
    surfaceRules .promotedContent ⟨4, by decide⟩ ⟨20, by decide⟩ none

end RuleSet
end AdAdmission
