import AdAdmission.Text.Digits
/-! Tables over code points. A table is written as text: rows separated by white space, each a
    hexadecimal code point or a range of them, and after a colon the value of the row. Rows are in
    ascending order and do not overlap, so a code point is found by halving. -/

namespace AdAdmission
namespace Unicode

/-- The value shared by a range of code points. -/
structure Row (α : Type) where
  first : Nat
  last : Nat
  value : α

/-- Rows in ascending order. -/
abbrev Table (α : Type) := Array (Row α)

namespace Table
variable {α : Type}

/-- Looks for a code point among the rows from `lo` up to `hi`. -/
def search (t : Table α) (n lo hi : Nat) : Option (Row α) :=
  if h : lo < hi ∧ hi ≤ t.size then
    let mid := (lo + hi) / 2
    have hm : mid < t.size := by omega
    if n < t[mid].first then search t n lo mid
    else if t[mid].last < n then search t n (mid + 1) hi
    else some t[mid]
  else none
termination_by hi - lo

/-- The row that a character belongs to. -/
def find? (t : Table α) (c : Char) : Option (Row α) := search t c.toNat 0 t.size

/-- Some row covers the character. -/
def contains (t : Table α) (c : Char) : Bool := (t.find? c).isSome

end Table

/-! ### Reading a written table -/

/-- A hexadecimal number. -/
def hex? (s : String) : Option Nat := Text.based? 16 s.toList

/-- The words of a text, which white space separates. -/
def words (s : String) : List String :=
  ((s.splitOn "\n").flatMap (·.splitOn " ")).filter (· != "")

/-- One row, its value read by `value` from the text after the colon. -/
def row? {α : Type} (value : String → Option α) (word : String) : Option (Row α) := do
  let (span, text) ← match word.splitOn ":" with
    | [span] => some (span, "")
    | [span, text] => some (span, text)
    | _ => none
  let v ← value text
  match span.splitOn "-" with
  | [a] => (hex? a).map fun n => ⟨n, n, v⟩
  | [a, b] => do return ⟨← hex? a, ← hex? b, v⟩
  | _ => none

/-- A written table. -/
def table {α : Type} (value : String → Option α) (text : String) : Table α :=
  ((words text).filterMap (row? value)).toArray

/-- A written set of code points. -/
def ranges (text : String) : Table Unit := table (fun _ => some ()) text

end Unicode
end AdAdmission
