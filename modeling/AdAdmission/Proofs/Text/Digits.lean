import Mathlib
import AdAdmission.Text.Digits

/-! Decimal digits and the numbers they denote. Writing and reading a number undo each other, padded or
    not. Texts of digits are ordered like decimal fractions with these digits after the point, and of
    two that denote the same fraction the shorter comes first; so texts of one length are ordered like
    their numbers. -/

namespace AdAdmission
namespace Text

/-- Every character is a decimal digit. -/
def AllDigits (cs : List Char) : Prop := ∀ c ∈ cs, c.isDigit = true

/-! ### Digits -/

theorem isDigit_iff {c : Char} : c.isDigit = true ↔ '0'.toNat ≤ c.toNat ∧ c.toNat ≤ '9'.toNat := by
  simp only [Char.isDigit, Bool.and_eq_true, decide_eq_true_eq, ge_iff_le, UInt32.le_iff_toNat_le]
  rfl

theorem digitValue_lt {c : Char} (h : c.isDigit = true) : digitValue c < 10 := by
  have := isDigit_iff.mp h
  simp only [digitValue, Char.reduceToNat] at this ⊢
  omega

theorem digitValue_lt_iff {c d : Char} (hc : c.isDigit = true) (hd : d.isDigit = true) :
    digitValue c < digitValue d ↔ c < d := by
  have hc := isDigit_iff.mp hc
  have hd := isDigit_iff.mp hd
  rw [show c < d ↔ c.toNat < d.toNat from Iff.rfl]
  simp only [digitValue, Char.reduceToNat] at hc hd ⊢
  omega

theorem digitValue_inj {c d : Char} (hc : c.isDigit = true) (hd : d.isDigit = true) :
    digitValue c = digitValue d ↔ c = d := by
  have hc := isDigit_iff.mp hc
  have hd := isDigit_iff.mp hd
  rw [← Char.toNat_inj]
  simp only [digitValue, Char.reduceToNat] at hc hd ⊢
  omega

theorem allDigits_digits (n : Nat) : AllDigits (digits n) := fun _ hc =>
  Nat.isDigit_of_mem_toDigits (by decide) (by decide) hc

theorem allDigits_padded (width n : Nat) : AllDigits (padded width n) := fun c hc => by
  rcases List.mem_append.mp hc with hc | hc
  · rw [List.eq_of_mem_replicate hc]
    rfl
  · exact allDigits_digits n c hc

theorem digits_ne_nil (n : Nat) : digits n ≠ [] := Nat.toDigits_ne_nil

/-! ### Values -/

theorem valueOf_eq_ofDigitChars (cs : List Char) : valueOf cs = Nat.ofDigitChars 10 cs 0 := rfl

theorem valueOf_append (cs ds : List Char) :
    valueOf (cs ++ ds) = valueOf cs * 10 ^ ds.length + valueOf ds := by
  simp only [valueOf_eq_ofDigitChars, Nat.ofDigitChars_append]
  rw [Nat.ofDigitChars_eq_ofDigitChars_zero, Nat.mul_comm]

theorem valueOf_cons (c : Char) (cs : List Char) :
    valueOf (c :: cs) = digitValue c * 10 ^ cs.length + valueOf cs := by
  have h := valueOf_append [c] cs
  simpa [valueOf] using h

@[simp]
theorem valueOf_digits (n : Nat) : valueOf (digits n) = n := Nat.ofDigitChars_ten_toDigits

@[simp]
theorem valueOf_padded (width n : Nat) : valueOf (padded width n) = n := by
  rw [padded, valueOf_append, valueOf_digits, valueOf_eq_ofDigitChars, Nat.ofDigitChars_replicate_zero]
  simp

theorem valueOf_lt {cs : List Char} (h : AllDigits cs) : valueOf cs < 10 ^ cs.length := by
  induction cs with
  | nil => simp [valueOf]
  | cons c cs ih =>
    obtain ⟨hc, hcs⟩ := List.forall_mem_cons.mp h
    have h1 := digitValue_lt hc
    have h2 := ih hcs
    rw [valueOf_cons, List.length_cons, pow_succ]
    calc digitValue c * 10 ^ cs.length + valueOf cs
        < digitValue c * 10 ^ cs.length + 10 ^ cs.length := by omega
      _ = (digitValue c + 1) * 10 ^ cs.length := by ring
      _ ≤ 10 * 10 ^ cs.length := Nat.mul_le_mul_right _ h1
      _ = 10 ^ cs.length * 10 := Nat.mul_comm _ _

/-! ### Widths -/

theorem length_digits_le_iff {n width : Nat} (h : 0 < width) : (digits n).length ≤ width ↔ n < 10 ^ width :=
  Nat.length_toDigits_le_iff (by decide) h

/-- Of several digits the first is no zero. -/
theorem ne_zero_of_digits {n : ℕ} {c d : Char} {ds : List Char} (h : digits n = c :: d :: ds) : c ≠ '0' := by
  rintro rfl
  have hall : AllDigits (d :: ds) := (List.forall_mem_cons.mp (h ▸ allDigits_digits n)).2
  have hvalue : n = valueOf (d :: ds) := by
    rw [← valueOf_digits n, h, valueOf_cons]
    simp [digitValue]
  have hlength : (digits n).length ≤ (d :: ds).length :=
    (length_digits_le_iff (by simp)).mpr (hvalue ▸ valueOf_lt hall)
  rw [h] at hlength
  simp at hlength

theorem length_padded {n width : Nat} (h : 0 < width) (hn : n < 10 ^ width) :
    (padded width n).length = width := by
  have := (length_digits_le_iff h).mpr hn
  simp only [padded, List.length_append, List.length_replicate]
  omega

theorem padded_ne_nil (width n : Nat) : padded width n ≠ [] := by
  simp [padded, digits_ne_nil]

/-! ### Order -/

theorem fraction_lt {a b p q v w : Nat} (hv : v < p) (hab : a < b) :
    (a * p + v) * (q + 1) < (b * (q + 1) + w) * p :=
  calc (a * p + v) * (q + 1) < (a * p + p) * (q + 1) := Nat.mul_lt_mul_of_pos_right (by omega) (by omega)
    _ = (a + 1) * (q + 1) * p := by ring
    _ ≤ b * (q + 1) * p := Nat.mul_le_mul_right _ (Nat.mul_le_mul_right _ hab)
    _ ≤ (b * (q + 1) + w) * p := Nat.mul_le_mul_right _ (by omega)

/-- Texts of digits are ordered like decimal fractions, the shorter of two equal ones first. -/
theorem lt_iff_fraction {cs ds : List Char} (hcs : AllDigits cs) (hds : AllDigits ds) :
    cs < ds ↔ valueOf cs * 10 ^ ds.length < valueOf ds * 10 ^ cs.length ∨
      valueOf cs * 10 ^ ds.length = valueOf ds * 10 ^ cs.length ∧ cs.length < ds.length := by
  induction cs generalizing ds with
  | nil =>
    cases ds with
    | nil => simp
    | cons d ds =>
      simp [valueOf]
      omega
  | cons c cs ih =>
    cases ds with
    | nil => simp [valueOf]
    | cons d ds =>
      obtain ⟨hc, hcs⟩ := List.forall_mem_cons.mp hcs
      obtain ⟨hd, hds⟩ := List.forall_mem_cons.mp hds
      have hv := valueOf_lt hcs
      have hw := valueOf_lt hds
      obtain ⟨p, hp⟩ : ∃ p, 10 ^ cs.length = p + 1 := ⟨_, (Nat.succ_pred_eq_of_pos (by positivity)).symm⟩
      obtain ⟨q, hq⟩ : ∃ q, 10 ^ ds.length = q + 1 := ⟨_, (Nat.succ_pred_eq_of_pos (by positivity)).symm⟩
      rw [List.cons_lt_cons_iff, ih hcs hds, ← digitValue_lt_iff hc hd, ← digitValue_inj hc hd]
      simp only [valueOf_cons, List.length_cons, pow_succ, Nat.add_lt_add_iff_right, hp, hq] at hv hw ⊢
      -- The first digits decide, unless they are the same.
      rcases Nat.lt_trichotomy (digitValue c) (digitValue d) with hlt | heq | hgt
      · have := fraction_lt (q := q) (w := valueOf ds) hv hlt
        simp only [hlt, true_or, true_iff]
        left
        linarith
      · simp only [heq, Nat.lt_irrefl, false_or, true_and]
        constructor
        · rintro (h | ⟨h, hl⟩)
          · left
            linarith
          · right
            exact ⟨by linarith, hl⟩
        · rintro (h | ⟨h, hl⟩)
          · left
            linarith
          · right
            exact ⟨by linarith, hl⟩
      · have := fraction_lt (q := p) (w := valueOf cs) hw hgt
        constructor
        · rintro (h | ⟨h, -⟩) <;> omega
        · rintro (h | ⟨h, -⟩) <;> linarith

/-- Texts of digits of one length are ordered like their numbers. -/
theorem lt_iff_valueOf_lt {cs ds : List Char} (hcs : AllDigits cs) (hds : AllDigits ds)
    (hl : cs.length = ds.length) : cs < ds ↔ valueOf cs < valueOf ds := by
  rw [lt_iff_fraction hcs hds, hl]
  simp

end Text
end AdAdmission
