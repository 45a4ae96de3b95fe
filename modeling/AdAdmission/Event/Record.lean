import AdAdmission.Event
import AdAdmission.Time.Stamp
import AdAdmission.Value
import AdAdmission.Json.Reader
import AdAdmission.Json.Printer
/-! Event records. An event is kept as the bytes of its compact JSON text, and read back from any JSON
    text with its fields. -/

namespace AdAdmission
namespace Event

/-- The names of the fields of an event, in order. -/
def fieldNames : List String :=
  ["ad_kind", "confirmation_kind", "ad_identifier", "creative_set_id", "segment", "timestamp"]

/-- The JSON form of an event. -/
def toJson (e : Event) : Json :=
  .ofMembers [("ad_kind", .ofText e.adKind.name), ("confirmation_kind", .ofText e.confirmation.name),
    ("ad_identifier", .ofText e.adIdentifier), ("creative_set_id", .ofText e.creativeSetId),
    ("segment", .ofText e.segment), ("timestamp", .ofText e.timestamp.iso)]

/-- The bytes that an event is kept as. -/
def encode (e : Event) : ByteArray := e.toJson.compact.toUTF8

/-- The bytes that an event is kept as, or why it cannot be kept. There is always a JSON text, so this does not fail. -/
def serialize (e : Event) : Except String ByteArray := .ok e.encode

@[simp]
theorem serialize_eq (e : Event) : e.serialize = .ok e.encode := rfl

/-- Reads an event. -/
def ofJson? (j : Json) : Option Event := do
  match ← j.fields? fieldNames with
  | [some kind, some confirmation, some ad, some set, some segment, some timestamp] =>
    return ⟨← kind.name?.bind AdKind.ofName?, ← confirmation.name?.bind ConfirmationKind.ofName?,
      ← ad.text?, ← set.text?, ← segment.text?, ← timestamp.text?.bind Instant.parse?⟩
  | _ => none

/-- Reads the JSON text of an event. -/
def parse? (text : String) : Option Event := (Json.parse? text).bind ofJson?

/-- Reads the bytes that an event was kept as. -/
def decode? (bytes : ByteArray) : Option Event := (Json.ofBytes? bytes).bind ofJson?

end Event
end AdAdmission
