import Mathlib
import AdAdmission.Event.Record
import AdAdmission.Proofs.Json.RoundTrip
import AdAdmission.Proofs.Time.Stamp
import AdAdmission.Proofs.Value.Fields

/-! Event records. Every event is read back from the bytes it is kept as, whatever its texts hold and
    whenever it happened, and so are other JSON texts that tell the same: the fields of an object may
    stand in any order with texts under other names beside them, or an array lists their values. -/

namespace AdAdmission
namespace Event

/-- The members of the JSON form of an event. -/
def members (e : Event) : Fields Json :=
  [("ad_kind", .ofText e.adKind.name), ("confirmation_kind", .ofText e.confirmation.name),
    ("ad_identifier", .ofText e.adIdentifier), ("creative_set_id", .ofText e.creativeSetId),
    ("segment", .ofText e.segment), ("timestamp", .ofText e.timestamp.iso)]

/-- The values that tell an event: an object with its members in some order and remarks beside them, or an array of
    what its members hold. -/
inductive ToldBy (e : Event) : Json → Prop where
  | object {given : Fields Json} (h : e.members.Remarked given) : ToldBy e (.ofMembers given)
  | array : ToldBy e (.array (e.members.map (·.2)))

variable {e : Event} {j : Json}

theorem nodup_members (e : Event) : ((members e).map (·.1)).Nodup := by
  rw [show (members e).map (·.1) = fieldNames from rfl]
  decide

theorem toldBy_toJson (e : Event) : e.ToldBy e.toJson := .object (.refl e.members)

theorem fields?_of_toldBy (h : e.ToldBy j) : j.fields? fieldNames = some (e.members.map fun m => some m.2) := by
  cases h with
  | object h =>
    rw [Json.fields?_ofMembers]
    exact h.select? e.nodup_members (List.Subset.refl _)
  | array => rfl

theorem ofJson?_of_toldBy (h : e.ToldBy j) : ofJson? j = some e := by
  rw [ofJson?, fields?_of_toldBy h]
  simp [members, Json.ofText, Json.name?, Json.text?, AdKind.ofName?_name, ConfirmationKind.ofName?_name, Instant.parse?_iso]

theorem written_of_toldBy (h : e.ToldBy j) : j.Written := by
  have hmembers : ∀ m ∈ e.members, m.2.Written := by simp [members, Json.ofText, Json.Written]
  cases h with
  | object h => exact Json.written_ofMembers (h.forall_mem (fun _ => trivial) hmembers)
  | array =>
    refine Json.written_array fun j hj => ?_
    obtain ⟨m, hm, rfl⟩ := List.mem_map.mp hj
    exact hmembers m hm

theorem parse?_of_toldBy (h : e.ToldBy j) : parse? j.compact = some e := by
  rw [parse?, Json.parse?_compact (written_of_toldBy h), Option.bind_some, ofJson?_of_toldBy h]

theorem decode?_toUTF8 (text : String) : decode? text.toUTF8 = parse? text := by
  rw [decode?, Json.ofBytes?_toUTF8, parse?]

/-- An event is read back from the bytes it is kept as. -/
theorem decode?_encode (e : Event) : decode? e.encode = some e := by
  rw [encode, decode?_toUTF8, parse?_of_toldBy (toldBy_toJson e)]

theorem encode_injective : Function.Injective encode := by
  intro e other h
  have hdecode := congrArg decode? h
  rw [decode?_encode, decode?_encode] at hdecode
  exact Option.some_inj.mp hdecode

/-- An event is read back from its record, which no other event shares, and from the text and the bytes of every other
    value that tells it. -/
theorem record_reads_back (e : Event) :
    parse? e.toJson.compact = some e ∧ decode? e.encode = some e ∧
      (∀ other : Event, other.toJson.compact = e.toJson.compact → other = e) ∧
      ∀ j, e.ToldBy j → parse? j.compact = some e ∧ decode? j.compact.toUTF8 = some e := by
  refine ⟨parse?_of_toldBy (toldBy_toJson e), decode?_encode e, fun other h => ?_, fun j h => ?_⟩
  · exact encode_injective (congrArg String.toUTF8 h)
  · exact ⟨parse?_of_toldBy h, (decode?_toUTF8 _).trans (parse?_of_toldBy h)⟩

/-- A conversion at the last instant of all, with texts that need escapes. -/
def lastConversion : Event where
  adKind := .promotedContent
  confirmation := .conversion
  adIdentifier := "say \"ad\"\n"
  creativeSetId := "\\"
  segment := ""
  timestamp := .latest

/-- The same conversion told from the back, with a remark before it. -/
def remarkedConversion : Fields Json := ("remark", .ofText "\x00") :: lastConversion.members.reverse

/-- The conversion is read back from both of its other forms, and its record tells it from the same conversion at the
    first instant of all. -/
theorem remarked_conversion_reads_back :
    lastConversion.ToldBy (.ofMembers remarkedConversion) ∧
      parse? (Json.ofMembers remarkedConversion).compact = some lastConversion ∧
      decode? (Json.array (lastConversion.members.map (·.2))).compact.toUTF8 = some lastConversion ∧
      { lastConversion with timestamp := .earliest }.toJson.compact ≠ lastConversion.toJson.compact := by
  obtain ⟨-, -, hdistinct, htold⟩ := record_reads_back lastConversion
  have hremarked : lastConversion.members.Remarked remarkedConversion := by
    refine ⟨[("remark", .ofText "\x00")], ?_, ?_⟩
    · simp [members]
    · exact ((List.reverse_perm _).cons _).trans (List.perm_append_singleton _ _).symm
  refine ⟨.object hremarked, (htold _ (.object hremarked)).1, (htold _ .array).2, fun h => ?_⟩
  exact absurd (congrArg Event.timestamp (hdistinct _ h)) (by decide)

end Event
end AdAdmission
