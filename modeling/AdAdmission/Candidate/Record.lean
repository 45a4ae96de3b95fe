import AdAdmission.Candidate
import AdAdmission.Signal
import AdAdmission.Value
import AdAdmission.Json.Reader
import AdAdmission.Json.Printer
/-! Candidates, segments and signals in JSON. A creative carries its surface as a tag among its fields,
    anywhere, or as the first item of an array. -/

namespace AdAdmission

/-! ### Creatives -/

namespace Creative

/-- The name of the field that tells the surface. -/
def tagName : String := "type"

/-- The JSON form of a creative: the tag, then its fields. -/
def toJson (c : Creative) : Json :=
  .ofMembers ((tagName, .ofText c.kind.name) :: c.fields.map fun (k, v) => (k, .ofText v))

/-- The creative of a surface from the values of its fields, all of which have to be texts. -/
def ofValues? (kind : AdKind) (values : List (Option Value)) : Option Creative := do
  ofContents? kind (← values.mapM fun v => v.bind Value.text?)

/-- The surface that a tag names. -/
def kindOfTag? (tag : Value) : Option AdKind := tag.text?.bind AdKind.ofName?

/-- Reads a creative. -/
def ofValue? : Value → Option Creative
  | .list (tag :: items) => do
    let kind ← kindOfTag? tag
    ofValues? kind (← Fields.inOrder? (fieldNames kind) items)
  | v => do
    let fields ← v.fields?
    let kind ← kindOfTag? (← (← fields.get? tagName))
    ofValues? kind (← fields.select? (fieldNames kind))

end Creative

/-! ### Candidates -/

namespace Candidate

/-- The names of the fields of a candidate, in order. -/
def fieldNames : List String := ["ad_identifier", "creative_set_id", "segment", "creative"]

/-- The JSON form of a candidate. -/
def toJson (c : Candidate) : Json :=
  .ofMembers [("ad_identifier", .ofText c.adIdentifier), ("creative_set_id", .ofText c.creativeSetId),
    ("segment", .ofText c.segment), ("creative", c.creative.toJson)]

/-- The depth to which the creative of a candidate may nest. -/
def creativeRoom : Nat := 126

/-- Reads a candidate. -/
def ofJson? (j : Json) : Option Candidate := do
  match ← j.fields? fieldNames with
  | [some ad, some set, some segment, some creative] =>
    return ⟨← ad.text?, ← set.text?, ← segment.text?,
      ← (creative.dynamic? creativeRoom).bind Creative.ofValue?⟩
  | _ => none

/-- Reads the JSON text of a candidate. -/
def parse? (text : String) : Option Candidate := (Json.parse? text).bind ofJson?

end Candidate

/-! ### Segments and signals -/

/-- Reads the JSON text of a segment, which must not be blank. -/
def Segment.parse? (text : String) : Option Segment :=
  ((Json.parse? text).bind Json.text?).bind Segment.ofText?

/-- The JSON form of a segment. -/
def Segment.toJson (s : Segment) : Json := .ofText s.text

namespace Signal

/-- The JSON form of a signal. -/
def toJson (s : Signal) : Json :=
  .ofMembers [("name", .ofText s.name), ("questions", .array (s.questions.map .ofText))]

/-- Reads a signal. -/
def ofJson? (j : Json) : Option Signal := do
  match ← j.fields? ["name", "questions"] with
  | [some name, some (.array questions)] => return ⟨← name.text?, ← questions.mapM Json.text?⟩
  | _ => none

/-- Reads the JSON text of a signal. -/
def parse? (text : String) : Option Signal := (Json.parse? text).bind ofJson?

end Signal
end AdAdmission
