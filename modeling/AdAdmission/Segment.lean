import AdAdmission.Text.Blank
/-! Classification segments. A segment such as `travel-hotels` names a parent category and, after the
    first separator, a child category. -/

namespace AdAdmission

/-- A classification text that is not blank. -/
structure Segment where
  /-- The segment as given. -/
  text : String
  /-- Some character is not white space. -/
  not_blank : Text.isBlank text = false
deriving DecidableEq

namespace Segment

/-- The character between the parent category and the child category. -/
def separator : Char := '-'

/-- The segment with the given text, which must not be blank. -/
def ofText? (text : String) : Option Segment :=
  if h : Text.isBlank text = false then some ⟨text, h⟩ else none

/-- The text before the first separator, the whole text when there is none. -/
def parent (s : Segment) : String :=
  String.ofList (s.text.toList.takeWhile (· != separator))

/-- A separator occurs. -/
def hasChild (s : Segment) : Bool := s.text.toList.contains separator

theorem ofText?_eq_some_iff {text : String} {s : Segment} :
    ofText? text = some s ↔ s.text = text := by
  unfold ofText?
  split
  · constructor
    · intro h
      cases h
      rfl
    · intro h
      cases s
      cases h
      rfl
  · rename_i hb
    constructor
    · intro h
      cases h
    · intro h
      exact absurd (h ▸ s.not_blank) hb

end Segment
end AdAdmission
