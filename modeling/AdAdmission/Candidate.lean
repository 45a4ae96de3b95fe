import AdAdmission.Kind
import AdAdmission.Segment
import AdAdmission.Url.Parse
/-! Candidate ads. A candidate is offered for delivery by the serving source. Its surface follows from
    its creative, so a candidate cannot claim one surface and carry the content of another. -/

namespace AdAdmission

/-! ### Creatives -/

/-- What an ad shows, by surface. -/
inductive Creative where
  | notification (title body targetUrl : String)
  | newTabPageAd (companyName imageUrl alt targetUrl : String)
  | inlineContentAd (title description imageUrl dimensions ctaText targetUrl : String)
  | promotedContent (title description targetUrl : String)
deriving DecidableEq

namespace Creative

/-- The surface that a creative is for. -/
def kind : Creative → AdKind
  | notification .. => .notification
  | newTabPageAd .. => .newTabPageAd
  | inlineContentAd .. => .inlineContentAd
  | promotedContent .. => .promotedContent

/-- The names of the fields on a surface, in order. -/
def fieldNames : AdKind → List String
  | .notification => ["title", "body", "target_url"]
  | .newTabPageAd => ["company_name", "image_url", "alt", "target_url"]
  | .inlineContentAd =>
    ["title", "description", "image_url", "dimensions", "cta_text", "target_url"]
  | .promotedContent => ["title", "description", "target_url"]

/-- The contents of the fields, in order. -/
def contents : Creative → List String
  | notification a b c => [a, b, c]
  | newTabPageAd a b c d => [a, b, c, d]
  | inlineContentAd a b c d e f => [a, b, c, d, e, f]
  | promotedContent a b c => [a, b, c]

/-- The creative for a surface with the given contents. -/
def ofContents? : AdKind → List String → Option Creative
  | .notification, [a, b, c] => some (notification a b c)
  | .newTabPageAd, [a, b, c, d] => some (newTabPageAd a b c d)
  | .inlineContentAd, [a, b, c, d, e, f] => some (inlineContentAd a b c d e f)
  | .promotedContent, [a, b, c] => some (promotedContent a b c)
  | _, _ => none

/-- The fields with their contents, in order. -/
def fields (c : Creative) : List (String × String) := (fieldNames c.kind).zip c.contents

/-- The fields that hold text to be shown. -/
def textFields : Creative → List (String × String)
  | notification title body _ => [("title", title), ("body", body)]
  | newTabPageAd companyName _ alt _ => [("company_name", companyName), ("alt", alt)]
  | inlineContentAd title description _ dimensions ctaText _ =>
    [("title", title), ("description", description), ("dimensions", dimensions), ("cta_text", ctaText)]
  | promotedContent title description _ => [("title", title), ("description", description)]

/-- The fields that hold an address. -/
def urlFields : Creative → List (String × String)
  | notification _ _ targetUrl => [("target_url", targetUrl)]
  | promotedContent _ _ targetUrl => [("target_url", targetUrl)]
  | newTabPageAd _ imageUrl _ targetUrl => [("image_url", imageUrl), ("target_url", targetUrl)]
  | inlineContentAd _ _ imageUrl _ _ targetUrl => [("image_url", imageUrl), ("target_url", targetUrl)]

theorem length_contents (c : Creative) : c.contents.length = (fieldNames c.kind).length := by
  cases c <;> rfl

end Creative

/-! ### Candidates -/

/-- An ad offered for delivery. -/
structure Candidate where
  /-- The identifier of the ad in the catalog. -/
  adIdentifier : String
  /-- The campaign the ad belongs to. -/
  creativeSetId : String
  /-- The classification of the ad. -/
  segment : String
  /-- What the ad shows. -/
  creative : Creative
deriving DecidableEq

/-- Why a candidate is not valid. -/
inductive CandidateError where
  | emptyAdIdentifier
  | emptySegment
  | missingField (kind : AdKind) (field : String)
  | invalidUrl (field value reason : String)
deriving DecidableEq

/-- The wording of why a candidate is not valid. -/
def CandidateError.message : CandidateError → String
  | emptyAdIdentifier => "ad identifier must be non-empty"
  | emptySegment => "segment must be non-empty"
  | missingField kind field => kind.name ++ " ad is missing required field \"" ++ field ++ "\""
  | invalidUrl field value reason =>
    "invalid URL in field \"" ++ field ++ "\": \"" ++ value ++ "\" (" ++ reason ++ ")"

namespace Candidate

/-- The surface of a candidate. -/
def kind (c : Candidate) : AdKind := c.creative.kind

/-- Why a text is no web address, if it is none: it does not parse, or its scheme is not one of the
    two of the web. -/
def urlFault? (value : String) : Option String :=
  match Url.scheme value with
  | .error e => some e.message
  | .ok scheme =>
    if scheme = "http" ∨ scheme = "https" then none
    else some ("scheme \"" ++ scheme ++ "\" is not http or https")

/-- What is wrong with a field that holds text. -/
def textFault? (kind : AdKind) (field : String × String) : Option CandidateError :=
  if Text.isBlank field.2 then some (.missingField kind field.1) else none

/-- What is wrong with a field that holds an address: it is missing when it is blank. -/
def urlFieldFault? (kind : AdKind) (field : String × String) : Option CandidateError :=
  if Text.isBlank field.2 then some (.missingField kind field.1)
  else (urlFault? field.2).map (.invalidUrl field.1 field.2)

/-- The first fault of a creative: the texts are looked at before the addresses. -/
def creativeFault? (c : Creative) : Option CandidateError :=
  (c.textFields.findSome? (textFault? c.kind)).or (c.urlFields.findSome? (urlFieldFault? c.kind))

/-- The first fault of a candidate: its identifier, its segment, then its creative. -/
def fault? (c : Candidate) : Option CandidateError :=
  if Text.isBlank c.adIdentifier then some .emptyAdIdentifier
  else if Text.isBlank c.segment then some .emptySegment
  else creativeFault? c.creative

/-- The segment of a candidate, which must not be blank. -/
def checkedSegment (c : Candidate) : Except CandidateError Segment :=
  match Segment.ofText? c.segment with
  | some s => .ok s
  | none => .error .emptySegment

/-- The segment of a valid candidate, or the first fault of one that is not. -/
def check (c : Candidate) : Except CandidateError Segment :=
  match c.fault? with
  | some e => .error e
  | none => c.checkedSegment

theorem checkedSegment_of_not_blank {c : Candidate} (h : Text.isBlank c.segment = false) :
    c.checkedSegment = .ok ⟨c.segment, h⟩ := by
  unfold checkedSegment
  rw [(Segment.ofText?_eq_some_iff (s := ⟨c.segment, h⟩)).mpr rfl]

theorem adIdentifier_not_blank {c : Candidate} (h : c.fault? = none) :
    Text.isBlank c.adIdentifier = false := by
  unfold fault? at h
  split at h
  · cases h
  · rename_i hid
    simpa using hid

theorem segment_not_blank {c : Candidate} (h : c.fault? = none) : Text.isBlank c.segment = false := by
  unfold fault? at h
  split at h
  · cases h
  · split at h
    · cases h
    · rename_i hs
      simpa using hs

theorem fault?_of_check {c : Candidate} {s : Segment} (h : c.check = .ok s) : c.fault? = none := by
  unfold check at h
  split at h
  · cases h
  · assumption

end Candidate
end AdAdmission
