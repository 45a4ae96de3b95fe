import AdAdmission.Kind
import AdAdmission.Segment
/-! Anonymous impression signals. A signal names the surface, the coarse category of the ad's segment
    and a fixed total counter, so the collector learns how many impressions a category received and
    nothing about the ad, the user or the moment. -/

namespace AdAdmission

/-- An anonymous report of one impression. -/
structure Signal where
  /-- The surface, with `_impression` after it. -/
  name : String
  /-- The counters that the impression adds to. -/
  questions : List String
deriving DecidableEq

namespace Signal

/-- What stands before the category in the name of its counter. -/
def segmentQuestion : String := "Brave.P2A.AdImpressionsPerSegment."

/-- The counter of all impressions. -/
def totalQuestion : String := "Brave.P2A.TotalAdImpressions"

/-- The letters and digits of ASCII, letters in lower case. -/
def normalize (text : String) : String :=
  String.ofList ((text.toList.filter Char.isAlphanum).map Char.toLower)

/-- The coarse category of a segment: its normalized parent, which may be empty. -/
def category (s : Segment) : String := normalize s.parent

/-- The counters of an impression: the category's when there is one, then the total. -/
def questionsFor (s : Segment) : List String :=
  if category s = "" then [totalQuestion] else [segmentQuestion ++ category s, totalQuestion]

/-- The signal of one impression. -/
def impression (kind : AdKind) (s : Segment) : Signal :=
  ⟨kind.name ++ "_impression", questionsFor s⟩

theorem questionsFor_of_category_eq {s t : Segment} (h : category s = category t) :
    questionsFor s = questionsFor t := by
  unfold questionsFor
  rw [h]

end Signal
end AdAdmission
