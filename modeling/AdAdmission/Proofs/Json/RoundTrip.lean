import Mathlib
import AdAdmission.Json.Printer
import AdAdmission.Json.Reader
import AdAdmission.Proofs.Text.Digits
import AdAdmission.Proofs.Text.Utf8

/-! Reading what was printed. The compact text of a value whose numbers are written with digits reads
    back as the value, whatever characters its texts hold. Each part of the grammar is read back with
    the rest of the text behind it; a number needs a rest that does not continue it. -/

namespace AdAdmission
open Text (Glyph AllDigits)

/-- A number is written with digits. -/
structure Decimal.Written (d : Decimal) : Prop where
  whole : Json.isWhole d.whole = true
  digits : AllDigits d.whole
  fraction : AllDigits d.fraction

namespace Json

/-- The positions of a text that is given by its characters. -/
def chars (cs : List Char) : List Glyph := cs.map Glyph.char

@[simp]
theorem chars_nil : chars [] = [] := rfl

@[simp]
theorem chars_cons (c : Char) (cs : List Char) : chars (c :: cs) = .char c :: chars cs := rfl

@[simp]
theorem chars_append (cs ds : List Char) : chars (cs ++ ds) = chars cs ++ chars ds := List.map_append

/-! ### Strings -/

theorem hexValue?_hexDigit : ∀ n < 16, Text.hexValue? (hexDigit n) = some n := by decide

theorem numberedEscape?_control {c : Char} (h : c.toNat < 32) :
    numberedEscape? '0' '0' (hexDigit (c.toNat / 16)) (hexDigit (c.toNat % 16)) = some (.char c) := by
  have hn : c.toNat / 16 * 16 + c.toNat % 16 = c.toNat := by omega
  have hsmall : ¬(0xD800 ≤ c.toNat ∧ c.toNat ≤ 0xDFFF) := by omega
  simp only [numberedEscape?, hexValue?_hexDigit _ (show c.toNat / 16 < 16 by omega),
    hexValue?_hexDigit _ (show c.toNat % 16 < 16 by omega), show Text.hexValue? '0' = some 0 from rfl,
    Option.bind_eq_bind, Option.bind_some, Nat.zero_mul, Nat.zero_add, hn, hsmall, if_false, Char.ofNat_toNat]

theorem pieces?_plain {c : Char} (h1 : c ≠ '"') (h2 : c ≠ '\\') (h3 : ¬c.toNat < 32) (rest : List Glyph) :
    pieces? (.char c :: rest) = (pieces? rest).map fun p => (.char c :: p.1, p.2) := by
  rw [pieces?.eq_def]
  split
  case h_5 c' rest' _ _ _ heq =>
    cases heq
    rw [if_neg h3, Option.map_eq_bind]
    rfl
  all_goals simp_all

theorem pieces?_short {e c : Char} (he : e ≠ 'u') (hc : shortEscape? e = some c) (rest : List Glyph) :
    pieces? (.char '\\' :: .char e :: rest) = (pieces? rest).map fun p => (.char c :: p.1, p.2) := by
  rw [pieces?, hc, Option.map_eq_bind]
  · rfl
  · intro _ _ _ _ _ _ hu
    exact he hu

theorem pieces?_numbered {a b c d : Char} {piece : Piece} (h : numberedEscape? a b c d = some piece)
    (rest : List Glyph) :
    pieces? (.char '\\' :: .char 'u' :: .char a :: .char b :: .char c :: .char d :: rest) =
      (pieces? rest).map fun p => (piece :: p.1, p.2) := by
  rw [pieces?, h, Option.map_eq_bind]
  rfl

/-- A character is read back from its escape, and stands for itself where it has none. -/
theorem pieces?_escape (c : Char) (rest : List Glyph) :
    pieces? (chars (escape c) ++ rest) = (pieces? rest).map fun p => (.char c :: p.1, p.2) := by
  unfold escape
  split_ifs with h1 h2 h3 h4 h5 h6 h7 h8
  · subst h1
    exact pieces?_short (by decide) rfl rest
  · subst h2
    exact pieces?_short (by decide) rfl rest
  · subst h3
    exact pieces?_short (by decide) rfl rest
  · subst h4
    exact pieces?_short (by decide) rfl rest
  · subst h5
    exact pieces?_short (by decide) rfl rest
  · subst h6
    exact pieces?_short (by decide) rfl rest
  · subst h7
    exact pieces?_short (by decide) rfl rest
  · exact pieces?_numbered (numberedEscape?_control h8) rest
  · exact pieces?_plain h1 h2 h8 rest

theorem pieces?_escaped (cs : List Char) (rest : List Glyph) :
    pieces? (chars (cs.flatMap escape) ++ .char '"' :: rest) = some (cs.map Piece.char, rest) := by
  induction cs with
  | nil => rfl
  | cons c cs ih =>
    rw [List.flatMap_cons, chars_append, List.append_assoc, pieces?_escape, ih]
    rfl

theorem join?_chars (cs : List Char) : join? (cs.map Piece.char) = some cs := by
  induction cs with
  | nil => rfl
  | cons c cs ih => simp [join?, ih]

theorem quoted_none : quoted none = ['"', '\\', 'u', 'd', '8', '0', '0', '"'] := by decide

theorem quoted_some (s : String) : quoted (some s) = '"' :: (s.toList.flatMap escape ++ ['"']) := rfl

theorem quoted_eq (content : Option String) : quoted content = '"' :: (quoted content).tail := by
  cases content with
  | none => rw [quoted_none, List.tail_cons]
  | some s => rw [quoted_some, List.tail_cons]

theorem string?_quoted (content : Option String) (rest : List Glyph) :
    string? (chars (quoted content).tail ++ rest) = some (content, rest) := by
  cases content with
  | none =>
    rw [quoted_none]
    rfl
  | some s =>
    simp only [quoted_some, List.tail_cons, chars_append, List.append_assoc, chars_cons, chars_nil,
      List.nil_append, List.cons_append, string?, pieces?_escaped, Option.bind_eq_bind, Option.bind_some,
      join?_chars, Option.map_some, String.ofList_toList, Option.pure_def]

/-! ### Numbers -/

/-- The text goes on with nothing that could continue a number: it ends, or a mark between or after
    values follows. -/
def Ends (rest : List Glyph) : Prop := ∀ c r, rest = .char c :: r → c = ',' ∨ c = ']' ∨ c = '\x7d'

theorem takeDigits_append {ds : List Char} {rest : List Glyph} (hds : AllDigits ds)
    (hrest : ∀ c r, rest = .char c :: r → c.isDigit = false) : takeDigits (chars ds ++ rest) = (ds, rest) := by
  induction ds with
  | nil =>
    match rest, hrest with
    | [], _ => rfl
    | .stray _ :: _, _ => rfl
    | .char c :: r, hrest => simp [takeDigits, hrest c r rfl]
  | cons c ds ih =>
    obtain ⟨hc, hds⟩ := List.forall_mem_cons.mp hds
    simp [takeDigits, hc, ih hds]

theorem Ends.not_digit {rest : List Glyph} (h : Ends rest) :
    ∀ c r, rest = .char c :: r → c.isDigit = false := fun c r hr => by
  rcases h c r hr with rfl | rfl | rfl <;> rfl

/-- The text of an exponent. -/
def exponentText : Option Int → List Char
  | none => []
  | some e => 'e' :: (if e < 0 then ['-'] else []) ++ Text.digits e.natAbs

/-- The text of the digits after the point. -/
def fractionText (fraction : List Char) : List Char :=
  if fraction.isEmpty then [] else '.' :: fraction

theorem writeNumber_eq (d : Decimal) :
    writeNumber d = (if d.negative then ['-'] else []) ++
      (d.whole ++ (fractionText d.fraction ++ exponentText d.exponent)) := by
  obtain ⟨negative, whole, fraction, exponent⟩ := d
  cases exponent <;> simp [writeNumber, fractionText, exponentText]

theorem exponentDigits?_digits (negative : Bool) (n : Nat) {rest : List Glyph} (hrest : Ends rest) :
    exponentDigits? negative (chars (Text.digits n) ++ rest) =
      some (some (if negative then -(n : Int) else n), rest) := by
  rw [exponentDigits?, takeDigits_append (Text.allDigits_digits n) hrest.not_digit]
  simp [Text.digits_ne_nil]

theorem exponent?_exponentText (e : Option Int) {rest : List Glyph} (hrest : Ends rest) :
    exponent? (chars (exponentText e) ++ rest) = some (e, rest) := by
  cases e with
  | none =>
    rw [exponent?.eq_def]
    split
    · rcases hrest _ _ ‹_› with h | h | h <;> cases h
    · rcases hrest _ _ ‹_› with h | h | h <;> cases h
    · rfl
  | some e =>
    by_cases he : e < 0
    · have h := exponentDigits?_digits true e.natAbs hrest
      rw [if_pos rfl, show -((e.natAbs : Nat) : Int) = e by omega] at h
      simpa [exponentText, he, exponent?] using h
    · have h := exponentDigits?_digits false e.natAbs hrest
      rw [if_neg (by decide), show ((e.natAbs : Nat) : Int) = e by omega] at h
      -- The first digit is no sign.
      obtain ⟨c, cs, hcs⟩ := List.exists_cons_of_ne_nil (Text.digits_ne_nil e.natAbs)
      have hc : c.isDigit = true := Text.allDigits_digits e.natAbs c (by rw [hcs]; exact List.mem_cons_self)
      have h1 : c ≠ '+' := by rintro rfl; cases hc
      have h2 : c ≠ '-' := by rintro rfl; cases hc
      rw [hcs] at h
      simpa [exponentText, he, exponent?, hcs, h1, h2] using h

theorem fraction?_fractionText {fraction : List Char} (h : AllDigits fraction) {rest : List Glyph}
    (hrest : ∀ c r, rest = .char c :: r → c.isDigit = false ∧ c ≠ '.') :
    fraction? (chars (fractionText fraction) ++ rest) = some (fraction, rest) := by
  cases fraction with
  | nil =>
    rw [fraction?.eq_def]
    split
    · exact absurd rfl (hrest _ _ ‹_›).2
    · rfl
  | cons c cs =>
    have := takeDigits_append h fun c r hr => (hrest c r hr).1
    simp only [fractionText, List.isEmpty_cons, Bool.false_eq_true, if_false, chars_cons, List.cons_append] at this ⊢
    simp [fraction?, this]

theorem tail_not_digit (d : Decimal) {rest : List Glyph} (hrest : Ends rest) (c : Char) (r : List Glyph)
    (h : chars (fractionText d.fraction ++ exponentText d.exponent) ++ rest = .char c :: r) : c.isDigit = false := by
  unfold fractionText exponentText at h
  split at h <;> split at h
  · exact hrest.not_digit c r h
  all_goals
    cases h
    rfl

theorem exponentText_head {e : Option Int} {rest : List Glyph} (hrest : Ends rest) (c : Char) (r : List Glyph)
    (h : chars (exponentText e) ++ rest = .char c :: r) : c.isDigit = false ∧ c ≠ '.' := by
  cases e with
  | none => rcases hrest c r h with rfl | rfl | rfl <;> decide
  | some e =>
    cases h
    decide

theorem isWhole_ne_nil {ds : List Char} (h : isWhole ds = true) : ds ≠ [] := by
  rintro rfl
  cases h

theorem writeNumber_head {d : Decimal} (h : d.Written) :
    ∃ c cs, writeNumber d = c :: cs ∧ (c = '-' ∨ c.isDigit = true) := by
  rw [writeNumber_eq]
  cases hn : d.negative with
  | true => exact ⟨'-', _, rfl, Or.inl rfl⟩
  | false =>
    obtain ⟨c, cs, hcs⟩ := List.exists_cons_of_ne_nil (isWhole_ne_nil h.whole)
    rw [hcs]
    exact ⟨c, _, rfl, Or.inr (h.digits c (by rw [hcs]; exact List.mem_cons_self))⟩

theorem number?_writeNumber {d : Decimal} (h : d.Written) {rest : List Glyph} (hrest : Ends rest) :
    number? (chars (writeNumber d) ++ rest) = some (.number d, rest) := by
  have hwhole := takeDigits_append h.digits (tail_not_digit d hrest)
  have hfraction := fraction?_fractionText h.fraction (exponentText_head (e := d.exponent) hrest)
  have hexponent := exponent?_exponentText d.exponent hrest
  simp only [chars_append, List.append_assoc] at hwhole
  rw [writeNumber_eq]
  cases hn : d.negative with
  | true =>
    simp only [if_true, List.cons_append, List.nil_append, chars_cons, chars_append, List.append_assoc, number?, hwhole,
      h.whole, hfraction, hexponent, Option.bind_eq_bind, Option.bind_some, Option.pure_def]
    rw [← hn]
  | false =>
    simp only [Bool.false_eq_true, if_false, List.nil_append, chars_append, List.append_assoc]
    rw [number?]
    · simp only [hwhole, h.whole, if_true, hfraction, hexponent, Option.bind_eq_bind, Option.bind_some,
        Option.pure_def]
      rw [← hn]
    · intro r hr
      obtain ⟨c, cs, hcs⟩ := List.exists_cons_of_ne_nil (isWhole_ne_nil h.whole)
      have hc := h.digits c (by rw [hcs]; exact List.mem_cons_self)
      rw [hcs] at hr
      cases hr
      cases hc

/-! ### Values -/

mutual

/-- Every number in a value is written with digits. -/
def Written : Json → Prop
  | number d => d.Written
  | array items => WrittenItems items
  | object members => WrittenMembers members
  | _ => True

/-- Every number in the items is written with digits. -/
def WrittenItems : List Json → Prop
  | [] => True
  | item :: items => Written item ∧ WrittenItems items

/-- Every number in the members is written with digits. -/
def WrittenMembers : List (Option String × Json) → Prop
  | [] => True
  | (_, value) :: members => Written value ∧ WrittenMembers members

end

theorem isWhole_digits (n : ℕ) : isWhole (Text.digits n) = true := by
  match h : Text.digits n with
  | [] => exact absurd h (Text.digits_ne_nil n)
  | [c] => rcases eq_or_ne c '0' with rfl | hc <;> simp_all [isWhole]
  | c :: d :: ds => simpa [isWhole] using Text.ne_zero_of_digits h

theorem written_ofNat (n : ℕ) : (ofNat n).Written :=
  ⟨isWhole_digits n, Text.allDigits_digits n, fun _ hc => by cases hc⟩

theorem written_array {items : List Json} (h : ∀ j ∈ items, j.Written) : (array items).Written := by
  induction items with
  | nil => trivial
  | cons j rest ih =>
    obtain ⟨hj, hrest⟩ := List.forall_mem_cons.mp h
    exact ⟨hj, ih hrest⟩

theorem written_ofMembers {members : List (String × Json)} (h : ∀ m ∈ members, m.2.Written) :
    (ofMembers members).Written := by
  induction members with
  | nil => trivial
  | cons m rest ih =>
    obtain ⟨hm, hrest⟩ := List.forall_mem_cons.mp h
    exact ⟨hm, ih hrest⟩

/-- A character that is not passed over as white space. -/
def IsInk (c : Char) : Prop := c ≠ ' ' ∧ c ≠ '\n' ∧ c ≠ '\t' ∧ c ≠ '\r'

instance (c : Char) : Decidable (IsInk c) := by unfold IsInk; infer_instance

theorem skipSpace_of_isInk {c : Char} (h : IsInk c) (rest : List Glyph) :
    skipSpace (.char c :: rest) = .char c :: rest := by
  obtain ⟨h1, h2, h3, h4⟩ := h
  rw [skipSpace] <;> (intro _ hc; cases hc; contradiction)

theorem isInk_of_isDigit {c : Char} (h : c.isDigit = true) : IsInk c := by
  refine ⟨?_, ?_, ?_, ?_⟩ <;>
    rintro rfl <;> cases h

theorem value?_number {c : Char} (hc : c = '-' ∨ c.isDigit = true) (fuel : Nat) (rest : List Glyph) :
    value? (fuel + 1) (.char c :: rest) = number? (.char c :: rest) := by
  have hink : IsInk c := by
    rcases hc with rfl | hc
    · decide
    · exact isInk_of_isDigit hc
  rw [value?, skipSpace_of_isInk hink]
  split <;> first | rfl | (rename_i heq; cases heq; rcases hc with hc | hc <;> cases hc)

theorem ends_items (items : List Json) (rest : List Glyph) : Ends (chars (printItems items) ++ rest) := by
  cases items <;> intro c r h <;> cases h <;> simp

theorem ends_members (members : List (Option String × Json)) (rest : List Glyph) :
    Ends (chars (printMembers members) ++ rest) := by
  match members with
  | [] => intro c r h; cases h; simp
  | (_, _) :: _ => intro c r h; cases h; simp

theorem print_head {j : Json} (h : j.Written) : ∃ c cs, j.print = c :: cs ∧ IsInk c ∧ c ≠ ']' := by
  match j with
  | .null => exact ⟨'n', _, rfl, by decide⟩
  | .bool true => exact ⟨'t', _, rfl, by decide⟩
  | .bool false => exact ⟨'f', _, rfl, by decide⟩
  | .number d =>
    obtain ⟨c, cs, hcs, hc⟩ := writeNumber_head h
    refine ⟨c, cs, hcs, ?_⟩
    rcases hc with rfl | hc
    · decide
    · exact ⟨isInk_of_isDigit hc, by rintro rfl; cases hc⟩
  | .text content => exact ⟨'"', _, quoted_eq content, by decide⟩
  | .array [] => exact ⟨'[', _, rfl, by decide⟩
  | .array (_ :: _) => exact ⟨'[', _, rfl, by decide⟩
  | .object [] => exact ⟨'\x7b', _, rfl, by decide⟩
  | .object ((_, _) :: _) => exact ⟨'\x7b', _, rfl, by decide⟩

theorem value?_array {fuel : Nat} {c : Char} {cs : List Glyph} (h1 : IsInk c) (h2 : c ≠ ']') :
    value? (fuel + 1) (.char '[' :: .char c :: cs) =
      (itemList? fuel (.char c :: cs)).map fun p => (.array p.1, p.2) := by
  rw [value?, skipSpace_of_isInk (by decide)]
  simp only [skipSpace_of_isInk h1]
  split
  · rename_i heq
    cases heq
    exact absurd rfl h2
  · rfl

theorem value?_object (fuel : Nat) (cs : List Glyph) :
    value? (fuel + 1) (.char '\x7b' :: .char '"' :: cs) =
      (memberList? fuel (.char '"' :: cs)).map fun p => (.object p.1, p.2) := by
  rw [value?, skipSpace_of_isInk (by decide)]
  simp only [skipSpace_of_isInk (show IsInk '"' by decide)]
  rfl

/-- The text of the items of an array, without the opening bracket. -/
def itemsText (items : List Json) : List Char := (printItems items).tail

/-- The text of the members of an object, without the opening brace. -/
def membersText (members : List (Option String × Json)) : List Char := (printMembers members).tail

mutual

/-- A value is read back from its text. -/
theorem value?_print : ∀ (j : Json) (fuel : Nat) (rest : List Glyph), j.Written → Ends rest →
    j.print.length ≤ fuel → value? (fuel + 1) (chars j.print ++ rest) = some (j, rest)
  | .null, _, _, _, _, _ => rfl
  | .bool true, _, _, _, _, _ => rfl
  | .bool false, _, _, _, _, _ => rfl
  | .number d, fuel, rest, hj, hrest, _ => by
    obtain ⟨c, cs, hcs, hc⟩ := writeNumber_head hj
    have h := number?_writeNumber hj hrest
    rw [print]
    rw [hcs, chars_cons, List.cons_append] at h ⊢
    rw [value?_number hc, h]
  | .text content, fuel, rest, _, _, _ => by
    rw [print, quoted_eq, chars_cons, List.cons_append, value?, skipSpace_of_isInk (by decide)]
    simp only [string?_quoted, Option.map_some]
  | .array [], _, _, _, _, _ => rfl
  | .array (item :: items), fuel, rest, hj, _, hf => by
    obtain ⟨c, cs, hcs, hink, hne⟩ := print_head hj.1
    have h := itemList?_print (item :: items) (fuel - 1) rest (by simp) hj (by
      simp only [itemsText, print, printItems, List.tail_cons, List.length_cons] at hf ⊢
      omega)
    obtain ⟨g, rfl⟩ : ∃ g, fuel = g + 1 := ⟨fuel - 1, by simp only [print, List.length_cons] at hf; omega⟩
    simp only [itemsText, printItems, List.tail_cons, Nat.add_sub_cancel] at h
    rw [print, chars_cons]
    rw [hcs] at h ⊢
    simp only [List.cons_append, chars_cons] at h ⊢
    rw [value?_array hink hne, h]
    rfl
  | .object [], _, _, _, _, _ => rfl
  | .object ((name, value) :: members), fuel, rest, hj, _, hf => by
    have h := memberList?_print ((name, value) :: members) (fuel - 1) rest (by simp) hj (by
      simp only [membersText, print, printMembers, List.tail_cons, List.length_cons] at hf ⊢
      omega)
    obtain ⟨g, rfl⟩ : ∃ g, fuel = g + 1 := ⟨fuel - 1, by simp only [print, List.length_cons] at hf; omega⟩
    simp only [membersText, printMembers, List.tail_cons, Nat.add_sub_cancel] at h
    rw [print, chars_cons]
    rw [quoted_eq] at h ⊢
    simp only [List.cons_append, chars_cons] at h ⊢
    rw [value?_object, h]
    rfl

theorem itemList?_print : ∀ (items : List Json) (fuel : Nat) (rest : List Glyph), items ≠ [] → WrittenItems items →
    (itemsText items).length ≤ fuel → itemList? (fuel + 1) (chars (itemsText items) ++ rest) = some (items, rest)
  | [], _, _, h, _, _ => absurd rfl h
  | item :: items, fuel, rest, _, hj, hf => by
    have hpos : 0 < (printItems items).length := by cases items <;> simp [printItems]
    simp only [itemsText, printItems, List.tail_cons, List.length_append] at hf
    obtain ⟨g, rfl⟩ : ∃ g, fuel = g + 1 := ⟨fuel - 1, by omega⟩
    have hv := value?_print item g (chars (printItems items) ++ rest) hj.1 (ends_items items rest) (by omega)
    simp only [itemsText, printItems, List.tail_cons, chars_append, List.append_assoc]
    rw [itemList?, hv]
    match items, hj.2 with
    | [], _ => rfl
    | next :: items, hi =>
      have h := itemList?_print (next :: items) g rest (by simp) hi (by
        simp only [itemsText, printItems, List.tail_cons, List.length_cons, List.length_append] at hf ⊢
        omega)
      simp only [itemsText, printItems, List.tail_cons] at h
      simp only [printItems, chars_cons, List.cons_append, Option.bind_eq_bind, Option.bind_some,
        skipSpace_of_isInk (show IsInk ',' by decide), h, Option.pure_def]

theorem memberList?_print : ∀ (members : List (Option String × Json)) (fuel : Nat) (rest : List Glyph), members ≠ [] →
    WrittenMembers members → (membersText members).length ≤ fuel →
    memberList? (fuel + 1) (chars (membersText members) ++ rest) = some (members, rest)
  | [], _, _, h, _, _ => absurd rfl h
  | (name, value) :: members, fuel, rest, _, hj, hf => by
    simp only [membersText, printMembers, List.tail_cons, List.length_append, List.length_cons] at hf
    obtain ⟨g, rfl⟩ : ∃ g, fuel = g + 1 := ⟨fuel - 1, by omega⟩
    have hv := value?_print value g (chars (printMembers members) ++ rest) hj.1 (ends_members members rest) (by omega)
    simp only [membersText, printMembers, List.tail_cons, chars_append, chars_cons, List.append_assoc, List.cons_append]
    rw [quoted_eq, chars_cons, List.cons_append, memberList?, skipSpace_of_isInk (by decide)]
    simp only [string?_quoted, Option.bind_eq_bind, Option.bind_some, skipSpace_of_isInk (show IsInk ':' by decide), hv]
    match members, hj.2 with
    | [], _ => rfl
    | (next, other) :: members, hi =>
      have h := memberList?_print ((next, other) :: members) g rest (by simp) hi (by
        simp only [membersText, printMembers, List.tail_cons, List.length_cons, List.length_append] at hf ⊢
        omega)
      simp only [membersText, printMembers, List.tail_cons] at h
      simp only [printMembers, chars_cons, List.cons_append, skipSpace_of_isInk (show IsInk ',' by decide), h,
        Option.bind_some, Option.pure_def]

end

/-! ### Documents -/

theorem document?_print {j : Json} (h : j.Written) : document? (chars j.print) = some j := by
  have hv := value?_print j (2 * j.print.length + 1) [] h (fun _ _ h => by cases h) (by omega)
  rw [List.append_nil] at hv
  rw [document?, show (chars j.print).length = j.print.length from List.length_map _, hv]
  rfl

/-- A value is read back from its compact text. -/
theorem parse?_compact {j : Json} (h : j.Written) : parse? j.compact = some j := by
  have hd := document?_print h
  rw [parse?, Text.glyphs, compact, String.toList_ofList]
  exact hd

theorem ofBytes?_toUTF8 (text : String) : ofBytes? text.toUTF8 = parse? text := by
  rw [ofBytes?, Text.decode_toUTF8, parse?]

end Json
end AdAdmission
