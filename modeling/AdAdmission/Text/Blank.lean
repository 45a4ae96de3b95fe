/-! Blank text. A text is blank when it holds nothing but white space, so an identifier, a name or a
    field made of spaces counts as missing. -/

namespace AdAdmission
namespace Text

/-- The white space characters: the controls from tab to carriage return, the space, the next line
    control and the space separators, with the line and the paragraph separator. -/
def isBlankChar (c : Char) : Bool :=
  let n := c.val
  (0x09 ≤ n && n ≤ 0x0D) || n == 0x20 || n == 0x85 || n == 0xA0 || n == 0x1680 ||
    (0x2000 ≤ n && n ≤ 0x200A) || n == 0x2028 || n == 0x2029 || n == 0x202F || n == 0x205F ||
    n == 0x3000

/-- A text without any character besides white space. -/
def isBlank (s : String) : Bool := s.toList.all isBlankChar

/-- A text with a character besides white space. -/
def Inked (s : String) : Prop := ∃ c ∈ s.toList, isBlankChar c = false

/-- What is left of a text after the white space at its start. -/
def skipBlank (cs : List Char) : List Char := cs.dropWhile isBlankChar

theorem isBlank_eq_false_iff {s : String} : isBlank s = false ↔ Inked s := by
  rw [isBlank, List.all_eq_false]
  simp only [Bool.not_eq_true]
  exact Iff.rfl

theorem isBlank_eq_true_iff {s : String} : isBlank s = true ↔ ¬Inked s := by
  rw [← isBlank_eq_false_iff, Bool.not_eq_false]

end Text
end AdAdmission
