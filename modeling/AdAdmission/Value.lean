import AdAdmission.Json.Basic
import AdAdmission.Kind
/-! Values read from a document, whatever its format. A part whose shape depends on a tag that may come
    late, such as a rule, is first read whole as a value, and then taken as what its tag says. -/

namespace AdAdmission

/-- A value of a document. -/
inductive Value where
  | null
  | bool (b : Bool)
  /-- A whole number of 64 binary digits, with or without sign. -/
  | int (n : Int)
  /-- Zero with a minus sign, where the format tells it from zero. It is a number but no place in an
      order. -/
  | minusZero
  /-- Any other number; none is of use where a rule wants a number. -/
  | real
  | text (s : String)
  | list (items : List Value)
  | map (entries : List (Value × Value))

/-! ### Named fields -/

/-- Named fields, in the order of the document. -/
abbrev Fields (α : Type) := List (String × α)

namespace Fields
variable {α : Type}

/-- The value of a field, which may be missing. A field that is given twice has none. -/
def get? (fields : Fields α) (name : String) : Option (Option α) :=
  match fields.filter (·.1 == name) with
  | [] => some none
  | [field] => some (some field.2)
  | _ => none

/-- The values of the given fields, each of which may be missing. -/
def select? (fields : Fields α) (names : List String) : Option (List (Option α)) :=
  names.mapM fields.get?

/-- The values of the given fields from a list in their order. It may end early, but not go on. -/
def inOrder? (names : List String) (items : List α) : Option (List (Option α)) :=
  if items.length ≤ names.length then
    some (items.map some ++ List.replicate (names.length - items.length) none)
  else none

end Fields

/-! ### Numbers -/

/-- A whole number as a value: it has to be a word of 64 binary digits, with or without sign. A zero
    with a sign is no whole number. -/
def Value.ofDecimal? (d : Decimal) : Option Value :=
  let n := Text.valueOf d.whole
  if d.isInteger ∧ ¬ d.negative ∧ n < 18446744073709551616 then some (.int n)
  else if d.isInteger ∧ d.negative ∧ 0 < n ∧ n ≤ 9223372036854775808 then some (.int (-n))
  else if d.overflows then none
  else some .real

/-! ### Reading JSON -/

namespace Json

mutual

/-- Reads a value of JSON, which may nest to the given depth. Its strings have to be texts, and its
    numbers within the range of double precision. -/
def dynamic? (room : Nat) : Json → Option Value
  | null => some .null
  | bool b => some (.bool b)
  | number d => Value.ofDecimal? d
  | text (some s) => some (.text s)
  | text none => none
  | array items => if room = 0 then none else (valueList room items).map .list
  | object members => if room = 0 then none else (valueMembers room members).map .map

/-- Reads the items of an array. -/
def valueList (room : Nat) : List Json → Option (List Value)
  | [] => some []
  | j :: rest => do return (← dynamic? (room - 1) j) :: (← valueList room rest)

/-- Reads the members of an object. -/
def valueMembers (room : Nat) : List (Option String × Json) → Option (List (Value × Value))
  | [] => some []
  | (some k, j) :: rest => do return (.text k, ← dynamic? (room - 1) j) :: (← valueMembers room rest)
  | (none, _) :: _ => none

end

/-- The values of the given fields of an object, or of an array that lists them in order. -/
def fields? (names : List String) : Json → Option (List (Option Json))
  | object members => (members? members).bind (Fields.select? · names)
  | array items => Fields.inOrder? names items
  | _ => none

/-- A string that denotes a text. -/
def text? : Json → Option String
  | text content => content
  | _ => none

/-- A name out of a fixed set: a text, or an object with the name and nothing in it. -/
def name? : Json → Option String
  | text content => content
  | object [(name, null)] => name
  | _ => none

end Json

/-! ### Taking values apart -/

namespace Value

/-- A text. -/
def text? : Value → Option String
  | text s => some s
  | _ => none

/-- A number that fits a word of 64 binary digits. -/
def word? : Value → Option UInt64
  | int n => if 0 ≤ n ∧ n < 18446744073709551616 then some (UInt64.ofNat n.toNat) else none
  | minusZero => some 0
  | _ => none

/-- The entries of a map whose keys are all texts. -/
def fields? : Value → Option (Fields Value)
  | map entries => entries.mapM fun (k, v) => k.text?.map (·, v)
  | _ => none

/-- A member of a fixed set, given by its name or by its place in the order of declaration. -/
def member? {α : Type} (ofName? : String → Option α) (all : List α) : Value → Option α
  | text s => ofName? s
  | int n => if 0 ≤ n then all[n.toNat]? else none
  | _ => none

/-- A choice out of a fixed set: a name, or a map with one key that tells the member and nothing in
    it. -/
def choice? {α : Type} (ofName? : String → Option α) (all : List α) : Value → Option α
  | text s => ofName? s
  | map [(key, null)] => key.member? ofName? all
  | map [(key, map [])] => key.member? ofName? all
  | _ => none

/-- A surface. -/
def adKind? : Value → Option AdKind := choice? AdKind.ofName? AdKind.all

/-- A confirmation. -/
def confirmationKind? : Value → Option ConfirmationKind :=
  choice? ConfirmationKind.ofName? ConfirmationKind.all

end Value
end AdAdmission
