import AdAdmission.Notice
import AdAdmission.Rule
/-! Chains of permission rules. A candidate is admitted only if every rule allows it. The rules are asked
    in their order, and the first denial is the verdict. -/

namespace AdAdmission

/-- A rule with the name that is reported when it denies. -/
structure NamedRule where
  name : String
  rule : Rule
deriving DecidableEq

/-- Rules in the order they are asked. -/
abbrev Chain := List NamedRule

/-- Which rule denied a candidate, and why. -/
structure Denial where
  rule : String
  detail : String
deriving DecidableEq

/-- A denial in one line. -/
def Denial.display (d : Denial) : String := d.rule ++ ": " ++ d.detail

/-- What a chain decides. -/
inductive Verdict where
  | allowed
  | denied (d : Denial)
deriving DecidableEq

namespace Chain

/-- Asks the rules in order up to the first that denies. -/
def evaluate (chain : Chain) (c : Candidate) (h : History) (now : Instant) : Verdict :=
  match chain with
  | [] => .allowed
  | r :: rest =>
    match r.rule.decide c h now with
    | .denied detail => .denied ⟨r.name, detail⟩
    | .allowed => evaluate rest c h now

/-- What is told of a verdict. -/
def notice (chain : Chain) (c : Candidate) : Verdict → Notice
  | .denied d => .candidateDenied d.rule c.kind d.detail
  | .allowed => .candidateAdmitted c.kind chain.length

end Chain
end AdAdmission
