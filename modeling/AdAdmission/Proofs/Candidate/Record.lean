import Mathlib
import AdAdmission.Candidate.Record
import AdAdmission.Proofs.Json.RoundTrip
import AdAdmission.Proofs.Value.Fields

/-! Candidate records. A candidate is read back from its JSON form, and from every other object that tells the same:
    its fields and those of its creative may stand in any order, the tag of the creative among them, and texts may be
    put beside either under names of their own. -/

namespace AdAdmission

/-! ### Creatives -/

namespace Creative
variable {c : Creative} {given : Fields Json}

/-- The members that hold the fields of a creative. -/
def fieldMembers (c : Creative) : Fields Json := c.fields.map fun f => (f.1, .ofText f.2)

/-- The members of the JSON form of a creative: the tag, then its fields. -/
def members (c : Creative) : Fields Json := (tagName, .ofText c.kind.name) :: c.fieldMembers

theorem names_fieldMembers (c : Creative) : c.fieldMembers.map (·.1) = fieldNames c.kind := by
  rw [fieldMembers, List.map_map]
  exact List.map_fst_zip c.length_contents.ge

theorem nodup_members (c : Creative) : (c.members.map (·.1)).Nodup := by
  rw [members, List.map_cons, names_fieldMembers]
  cases c.kind <;> decide

theorem exists_text_of_mem {m : String × Json} (hm : m ∈ c.members) : ∃ text, m.2 = .ofText text := by
  rcases List.mem_cons.mp hm with rfl | hm
  · exact ⟨_, rfl⟩
  · obtain ⟨f, -, rfl⟩ := List.mem_map.mp hm
    exact ⟨_, rfl⟩

theorem exists_text_of_remarked (h : c.members.Remarked given) : ∀ m ∈ given, ∃ text, m.2 = .ofText text :=
  h.forall_mem (p := fun j => ∃ text, j = .ofText text) (fun text => ⟨text, rfl⟩) fun _ => exists_text_of_mem

theorem ofValues?_contents (c : Creative) : ofValues? c.kind (c.contents.map fun text => some (.text text)) = some c := by
  cases c <;> rfl

/-- The tag decides how the other fields are read, wherever it stands. -/
theorem ofValue?_of_remarked (h : c.members.Remarked given) : ofValue? (.map given.values.entries) = some c := by
  have htag : given.values.get? tagName = some (some (.text c.kind.name)) := by
    rw [Fields.values, Fields.get?_map, h.get? c.nodup_members (m := (tagName, _)) List.mem_cons_self]
    rfl
  have hfields : given.values.select? (fieldNames c.kind) = some (c.contents.map fun text => some (.text text)) := by
    rw [Fields.values, Fields.select?_map, ← names_fieldMembers,
      h.select? c.nodup_members (List.subset_cons_self _ _)]
    cases c <;> rfl
  rw [ofValue?]
  · rw [Fields.fields?_entries]
    simp [htag, kindOfTag?, Value.text?, AdKind.ofName?_name, hfields, ofValues?_contents]
  · intro _ _ hlist
    cases hlist

end Creative

/-! ### Candidates -/

namespace Candidate
variable {c : Candidate} {given : Fields Json}

/-- The members of an object that tells a candidate, with the given object for its creative. -/
def members (c : Candidate) (creative : Fields Json) : Fields Json :=
  [("ad_identifier", .ofText c.adIdentifier), ("creative_set_id", .ofText c.creativeSetId),
    ("segment", .ofText c.segment), ("creative", .ofMembers creative)]

/-- The members are those of the candidate in some order, with remarks beside them, and the object for its creative is
    made likewise. -/
def ToldBy (c : Candidate) (given : Fields Json) : Prop :=
  ∃ creative, c.creative.members.Remarked creative ∧ (c.members creative).Remarked given

/-- The text is read as the candidate, which is on the same surface and as valid as the candidate was. -/
structure ReadsAs (text : String) (c : Candidate) : Prop where
  same : parse? text = some c
  kind : (parse? text).map Candidate.kind = some c.kind
  fault : (parse? text).map Candidate.fault? = some c.fault?

theorem toldBy_members (c : Candidate) : c.ToldBy (c.members c.creative.members) :=
  ⟨_, .refl _, .refl _⟩

theorem toJson_eq (c : Candidate) : c.toJson = .ofMembers (c.members c.creative.members) := rfl

theorem nodup_members (c : Candidate) (creative : Fields Json) : ((c.members creative).map (·.1)).Nodup := by
  rw [show (c.members creative).map (·.1) = fieldNames from rfl]
  decide

theorem ofJson?_of_toldBy (h : c.ToldBy given) : ofJson? (.ofMembers given) = some c := by
  obtain ⟨creative, hcreative, hgiven⟩ := h
  have hfields : (Json.ofMembers given).fields? fieldNames = some ((c.members creative).map fun m => some m.2) := by
    rw [Json.fields?_ofMembers]
    exact hgiven.select? (c.nodup_members creative) (List.Subset.refl _)
  have hdynamic : (Json.ofMembers creative).dynamic? creativeRoom = some (.map creative.values.entries) :=
    Fields.dynamic?_of_texts (by decide) (Creative.exists_text_of_remarked hcreative)
  rw [ofJson?, hfields]
  simp [members, Json.ofText, Json.text?, hdynamic, Creative.ofValue?_of_remarked hcreative]

theorem written_of_toldBy (h : c.ToldBy given) : (Json.ofMembers given).Written := by
  obtain ⟨creative, hcreative, hgiven⟩ := h
  have htexts : (Json.ofMembers creative).Written := Json.written_ofMembers fun m hm => by
    obtain ⟨text, htext⟩ := Creative.exists_text_of_remarked hcreative m hm
    exact htext ▸ trivial
  refine Json.written_ofMembers (hgiven.forall_mem (fun _ => trivial) ?_)
  simp [members, Json.ofText, Json.Written, htexts]

theorem readsAs_of_toldBy (h : c.ToldBy given) : ReadsAs (Json.ofMembers given).compact c := by
  have hparse : parse? (Json.ofMembers given).compact = some c := by
    rw [parse?, Json.parse?_compact (written_of_toldBy h), Option.bind_some, ofJson?_of_toldBy h]
  exact ⟨hparse, by rw [hparse, Option.map_some], by rw [hparse, Option.map_some]⟩

/-- A candidate is read back from its JSON form, and from every object that tells it. -/
theorem form_reads_back (c : Candidate) :
    ReadsAs c.toJson.compact c ∧ ∀ given, c.ToldBy given → ReadsAs (Json.ofMembers given).compact c :=
  ⟨c.toJson_eq ▸ readsAs_of_toldBy c.toldBy_members, fun _ => readsAs_of_toldBy⟩

/-- A candidate whose segment is blank, with texts that need escapes. -/
def blankCandidate : Candidate := ⟨"ad \"1\"", "", "\n", .newTabPageAd "company" "image" "\\" ""⟩

/-- Its creative told from the back, so that the tag comes last, with a field of other surfaces before the others. -/
def remarkedCreative : Fields Json := ("title", .ofText "none") :: blankCandidate.creative.members.reverse

/-- The candidate told from the back, with two remarks of one name before its own fields. -/
def remarkedCandidate : Fields Json :=
  [("remark", .ofText "a"), ("remark", .ofText "b")] ++ (blankCandidate.members remarkedCreative).reverse

/-- The blank candidate is read back from both of its forms, and stays without a segment. -/
theorem remarked_candidate_reads_back :
    blankCandidate.ToldBy remarkedCandidate ∧ parse? (Json.ofMembers remarkedCandidate).compact = some blankCandidate ∧
      (parse? (Json.ofMembers remarkedCandidate).compact).map fault? = some (some .emptySegment) ∧
      parse? blankCandidate.toJson.compact = some blankCandidate := by
  have htold : blankCandidate.ToldBy remarkedCandidate := by
    refine ⟨remarkedCreative, ⟨[("title", .ofText "none")], ?_, ?_⟩, ⟨[("remark", .ofText "a"), ("remark", .ofText "b")],
      ?_, ?_⟩⟩
    · simp [blankCandidate, Creative.members, Creative.names_fieldMembers, Creative.kind, Creative.fieldNames,
        Creative.tagName]
    · exact ((List.reverse_perm _).cons _).trans (List.perm_append_singleton _ _).symm
    · simp [members]
    · exact ((List.reverse_perm _).append_left _).trans List.perm_append_comm
  obtain ⟨hplain, hremarked⟩ := form_reads_back blankCandidate
  have hread := hremarked _ htold
  have hfault : blankCandidate.fault? = some .emptySegment := by
    rw [fault?, if_neg (by decide), if_pos (by decide)]
  exact ⟨htold, hread.same, hread.fault.trans (congrArg some hfault), hplain.same⟩

end Candidate
end AdAdmission
