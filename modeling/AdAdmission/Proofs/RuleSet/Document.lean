import Mathlib
import AdAdmission.Proofs.Rule.Record
import AdAdmission.RuleSet.Document

/-! Documents of rule sets. The document that a rule set is written to, or another one that tells each of its rules
    in some way, is read as that rule set. It is handed out if it has no fault, and refused for its fault
    otherwise. -/

namespace AdAdmission
namespace RuleSet

/-- The document with these objects for its rules. -/
def document (entries : List (Fields Json)) : Json := .ofMembers [("rules", .array (entries.map .ofMembers))]

/-- The text of a document is read as a rule set without fault, or is refused for the fault that the rule set has. -/
structure ReadsAs (text : String) (s : RuleSet) : Prop where
  accepted : s.fault? = none → ofJsonText text = .ok s
  refused : ∀ e, s.fault? = some e → ofJsonText text = .error e

variable {s : RuleSet} {entries : List (Fields Json)}

theorem toJson_eq (s : RuleSet) : s.toJson = document (s.rules.map NamedRule.members) := by
  rw [toJson, document, List.map_map]
  rfl

theorem told_members (s : RuleSet) : List.Forall₂ NamedRule.ToldBy s.rules (s.rules.map NamedRule.members) :=
  List.forall₂_map_right_iff.mpr (List.forall₂_same.mpr fun r _ => r.toldBy_members)

theorem mapM_ofJson?_of_told {rules : List NamedRule} (h : List.Forall₂ NamedRule.ToldBy rules entries) :
    (entries.map Json.ofMembers).mapM NamedRule.ofJson? = some rules := by
  induction h with
  | nil => rfl
  | cons hr _ ih => simp [List.mapM_cons, NamedRule.ofJson?_of_toldBy hr, ih]

theorem written_of_told {rules : List NamedRule} (h : List.Forall₂ NamedRule.ToldBy rules entries) :
    ∀ j ∈ entries.map Json.ofMembers, j.Written := by
  induction h with
  | nil => simp
  | cons hr _ ih => exact List.forall_mem_cons.mpr ⟨NamedRule.written_of_toldBy hr, ih⟩

theorem written_document (h : List.Forall₂ NamedRule.ToldBy s.rules entries) : (document entries).Written := by
  refine Json.written_ofMembers fun m hm => ?_
  obtain rfl := List.mem_singleton.mp hm
  exact Json.written_array (written_of_told h)

theorem fields?_document (entries : List (Fields Json)) :
    (document entries).fields? ["rules"] = some [some (.array (entries.map .ofMembers))] := by
  rw [document, Json.fields?_ofMembers]
  exact Fields.select?_of_subset (by simp) (List.Subset.refl _)

theorem ofJson?_document (h : List.Forall₂ NamedRule.ToldBy s.rules entries) : ofJson? (document entries) = some s := by
  rw [ofJson?, fields?_document]
  simp [rulesOfJson?, mapM_ofJson?_of_told h]

theorem readsAs_document (h : List.Forall₂ NamedRule.ToldBy s.rules entries) :
    ReadsAs (document entries).compact s := by
  have hread : (Json.parse? (document entries).compact).bind ofJson? = some s := by
    rw [Json.parse?_compact (written_document h), Option.bind_some, ofJson?_document h]
  constructor
  · intro hfault
    rw [ofJsonText, hread]
    simp [validated, hfault]
  · intro e hfault
    rw [ofJsonText, hread]
    simp [validated, hfault]

/-- A rule set is read back from the text it is written to, and from the text of any document that tells its rules
    with fields in another order, with texts beside them under names of their own, or without fields that hold
    defaults. -/
theorem document_reads_back (s : RuleSet) :
    ReadsAs s.toJson.compact s ∧
      ∀ entries, List.Forall₂ NamedRule.ToldBy s.rules entries → ReadsAs (document entries).compact s :=
  ⟨toJson_eq s ▸ readsAs_document (told_members s), fun _ => readsAs_document⟩

/-- A cap and the exclusion of conversions, with names that need escapes. -/
def plainRules : RuleSet where
  rules := [⟨"once \"more\"", .perAdCap 3600 ⟨1, Nat.one_pos⟩ .viewed⟩, ⟨"never\n", .conversionExclusion⟩]

/-- The same rules told from the back, with a remark and without what the cap counts. -/
def remarkedEntries : List (Fields Json) :=
  [[("remark", .ofText "\\"), ("max_count", .ofNat 1), ("window_secs", .ofNat 3600), ("kind", .ofText "per_ad_cap"),
      ("name", .ofText "once \"more\"")],
    [("kind", .ofText "conversion_exclusion"), ("name", .ofText "never\n")]]

/-- Both documents are read as the rules. A rule given twice is refused. -/
theorem remarked_rules_read_back :
    List.Forall₂ NamedRule.ToldBy plainRules.rules remarkedEntries ∧
      ofJsonText plainRules.toJson.compact = .ok plainRules ∧
      ofJsonText (document remarkedEntries).compact = .ok plainRules ∧
      ofJsonText (toJson ⟨plainRules.rules ++ plainRules.rules⟩).compact =
        .error (.duplicateRuleName "once \"more\"") := by
  have hentries : remarkedEntries =
      [(plainRules.rules[0].members.take 4 ++ [("remark", Json.ofText "\\")]).reverse,
        plainRules.rules[1].members.reverse] := by
    simp [remarkedEntries, plainRules, NamedRule.members, Rule.members, Rule.kind, RuleKind.fieldNames, Rule.contents,
      NamedRule.nameField, Rule.tagName, RuleKind.name]
  have htold : List.Forall₂ NamedRule.ToldBy plainRules.rules remarkedEntries := by
    rw [hentries]
    refine .cons (.perm ⟨_, _, List.take_sublist _ _, ?_, ?_, .refl _⟩ (List.reverse_perm _))
      (.cons (.perm (NamedRule.toldBy_members _) (List.reverse_perm _)) .nil)
    · simp [NamedRule.members, Rule.members, Rule.kind, RuleKind.fieldNames, Rule.contents, NamedRule.IsDefault]
    · simp [NamedRule.members, Rule.members, Rule.kind, RuleKind.fieldNames, Rule.contents, NamedRule.nameField,
        Rule.tagName]
  have hplain := document_reads_back plainRules
  have hfault : plainRules.fault? = none := by decide +kernel
  exact ⟨htold, hplain.1.accepted hfault, (hplain.2 _ htold).accepted hfault,
    (document_reads_back ⟨plainRules.rules ++ plainRules.rules⟩).1.refused _ (by decide +kernel)⟩

end RuleSet
end AdAdmission
