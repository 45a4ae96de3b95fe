import Mathlib
import AdAdmission.Log
import AdAdmission.Proofs.Text.Digits
import AdAdmission.Proofs.Store.Scan

/-! The keys of event records. A key that the log writes carries its number in twenty digits, so it reads
    back as that number and keys are ordered like numbers. The log also accepts other keys: with fewer or
    more digits, or with a plus sign. Where such a key stands among the written ones is decided by its
    digits as a decimal fraction. -/

namespace AdAdmission

/-! ### Words -/

namespace Text

theorem number?_eq_some_iff {cs : List Char} {n : Nat} :
    number? cs = some n ↔ cs ≠ [] ∧ AllDigits cs ∧ valueOf cs = n := by
  cases cs with
  | nil => simp [number?]
  | cons c cs => simp [number?, AllDigits]

theorem word?_plus (cs : List Char) : word? ('+' :: cs) =
    (number? cs).bind fun m => if m < UInt64.size then some (UInt64.ofNat m) else none := by
  rw [word?]
  cases number? cs <;> rfl

theorem word?_of_ne {cs : List Char} (h : ∀ rest, cs ≠ '+' :: rest) : word? cs =
    (number? cs).bind fun m => if m < UInt64.size then some (UInt64.ofNat m) else none := by
  rw [word?]
  · cases number? cs <;> rfl
  · exact h

theorem bounded_eq_some_iff {cs : List Char} {n : UInt64} :
    ((number? cs).bind fun m => if m < UInt64.size then some (UInt64.ofNat m) else none) = some n ↔
      cs ≠ [] ∧ AllDigits cs ∧ valueOf cs = n.toNat := by
  rw [← number?_eq_some_iff, Option.bind_eq_some_iff]
  constructor
  · rintro ⟨m, hm, hn⟩
    obtain ⟨hlt, heq⟩ := Option.ite_none_right_eq_some.mp hn
    rw [hm, ← Option.some.inj heq, UInt64.toNat_ofNat_of_lt' hlt]
  · intro h
    have hn : n.toNat < UInt64.size := n.toNat_lt
    exact ⟨_, h, by rw [if_pos hn, UInt64.ofNat_toNat]⟩

/-- A word is a run of digits for a number below `2 ^ 64`, behind a plus sign or not. -/
theorem word?_eq_some_iff {cs : List Char} {n : UInt64} : word? cs = some n ↔
    ∃ sign ds, cs = sign ++ ds ∧ (sign = [] ∨ sign = ['+']) ∧ ds ≠ [] ∧ AllDigits ds ∧ valueOf ds = n.toNat := by
  by_cases hplus : ∃ rest, cs = '+' :: rest
  · obtain ⟨rest, rfl⟩ := hplus
    rw [word?_plus, bounded_eq_some_iff]
    constructor
    · exact fun h => ⟨['+'], rest, rfl, Or.inr rfl, h⟩
    · rintro ⟨sign, ds, heq, rfl | rfl, hne, hds, hv⟩
      · -- A plus sign is no digit.
        rw [List.nil_append] at heq
        exact absurd (hds '+' (heq ▸ List.mem_cons_self)) (by decide)
      · obtain rfl := List.tail_eq_of_cons_eq heq
        exact ⟨hne, hds, hv⟩
  · rw [word?_of_ne (not_exists.mp hplus), bounded_eq_some_iff]
    constructor
    · exact fun h => ⟨[], cs, rfl, Or.inl rfl, h⟩
    · rintro ⟨sign, ds, rfl, rfl | rfl, h⟩
      · exact h
      · exact absurd ⟨ds, rfl⟩ hplus

end Text

namespace Log
open Text

/-! ### Written keys -/

theorem toNat_le (n : UInt64) : n.toNat ≤ 18446744073709551615 := by
  have := n.toNat_lt
  omega

theorem following_toNat (n : UInt64) : (following n).toNat = min (n.toNat + 1) 18446744073709551615 := by
  have hn := toNat_le n
  have hsize : UInt64.size = 18446744073709551616 := rfl
  rw [following]
  split
  · rw [UInt64.toNat_add, UInt64.toNat_one, Nat.mod_eq_of_lt (by omega)]
    omega
  · omega

theorem toList_keyOf (n : UInt64) : (keyOf n).toList = keyStem.toList ++ padded 20 n.toNat := by
  rw [keyOf, String.toList_append, String.toList_ofList]

theorem length_padded_word (n : UInt64) : (padded 20 n.toNat).length = 20 :=
  length_padded (by decide) (by have := toNat_le n; omega)

theorem beginsWith_keyOf (n : UInt64) : beginsWith keyStem (keyOf n) = true :=
  beginsWith_of_toList_eq (toList_keyOf n)

theorem sequence?_eq_word? {key : String} {raw : List Char} (h : key.toList = keyStem.toList ++ raw) :
    sequence? key = word? raw := by
  rw [sequence?, if_pos (beginsWith_of_toList_eq h), h, ← String.length_toList,
    List.drop_left]

@[simp]
theorem sequence?_keyOf (n : UInt64) : sequence? (keyOf n) = some n := by
  rw [sequence?_eq_word? (toList_keyOf n), word?_eq_some_iff]
  exact ⟨[], _, rfl, Or.inl rfl, padded_ne_nil _ _, allDigits_padded _ _, valueOf_padded _ _⟩

theorem append_lt_append_iff (stem cs ds : List Char) : stem ++ cs < stem ++ ds ↔ cs < ds := by
  induction stem with
  | nil => rfl
  | cons c stem ih => simp [ih]

/-- Written keys are ordered like their numbers. -/
theorem keyOf_lt_keyOf {m n : UInt64} : keyOf m < keyOf n ↔ m.toNat < n.toNat := by
  rw [String.lt_iff_toList_lt, toList_keyOf, toList_keyOf, append_lt_append_iff,
    lt_iff_valueOf_lt (allDigits_padded _ _) (allDigits_padded _ _)
      (by rw [length_padded_word, length_padded_word]), valueOf_padded, valueOf_padded]

/-! ### Other keys -/

theorem sequence?_eq_some_iff {key : String} {n : UInt64} : sequence? key = some n ↔
    ∃ sign ds, key.toList = keyStem.toList ++ (sign ++ ds) ∧ (sign = [] ∨ sign = ['+']) ∧ ds ≠ [] ∧
      AllDigits ds ∧ valueOf ds = n.toNat := by
  constructor
  · intro h
    have hstem : beginsWith keyStem key = true := by
      by_contra hno
      rw [sequence?, if_neg hno] at h
      cases h
    obtain ⟨raw, hraw⟩ := beginsWith_iff.mp hstem
    rw [sequence?_eq_word? hraw.symm] at h
    obtain ⟨sign, ds, rfl, hrest⟩ := word?_eq_some_iff.mp h
    exact ⟨sign, ds, hraw.symm, hrest⟩
  · rintro ⟨sign, ds, hkey, hrest⟩
    rw [sequence?_eq_word? hkey]
    exact word?_eq_some_iff.mpr ⟨sign, ds, rfl, hrest⟩

/-- When the key has no sign and at most twenty digits, these make a number below the given one once they
    are filled up with zeros on the right, or that number itself if any were added. -/
def Below (key : String) (n : Nat) : Prop :=
  ∀ ds, AllDigits ds → key.toList = keyStem.toList ++ ds →
    (ds.length < 20 → valueOf ds * 10 ^ (20 - ds.length) ≤ n) ∧ (ds.length = 20 → valueOf ds < n)

theorem plus_lt_padded (cs : List Char) (width n : Nat) : '+' :: cs < padded width n := by
  obtain ⟨d, ds, hd⟩ := List.exists_cons_of_ne_nil (padded_ne_nil width n)
  have hdigit : d.isDigit = true := allDigits_padded width n d (hd ▸ List.mem_cons_self)
  have hplus : '+'.toNat < d.toNat := lt_of_lt_of_le (by decide) (isDigit_iff.mp hdigit).1
  rw [hd, List.cons_lt_cons_iff]
  exact Or.inl hplus

theorem digits_lt_padded_iff {ds : List Char} (hds : AllDigits ds) {n : UInt64} (hle : valueOf ds ≤ n.toNat)
    (hpos : 0 < n.toNat) : ds < padded 20 n.toNat ↔
      (ds.length < 20 → valueOf ds * 10 ^ (20 - ds.length) ≤ n.toNat) ∧
        (ds.length = 20 → valueOf ds < n.toNat) := by
  rw [lt_iff_fraction hds (allDigits_padded _ _), valueOf_padded, length_padded_word]
  have hp : 0 < 10 ^ ds.length := by positivity
  rcases Nat.lt_trichotomy ds.length 20 with hlt | heq | hgt
  · have hsplit : 10 ^ 20 = 10 ^ (20 - ds.length) * 10 ^ ds.length := by rw [← pow_add]; congr 1; omega
    rw [hsplit, ← Nat.mul_assoc, Nat.mul_lt_mul_right hp, Nat.mul_left_inj hp.ne']
    omega
  · rw [heq, Nat.mul_lt_mul_right (by decide)]
    omega
  · have hsplit : 10 ^ ds.length = 10 ^ (ds.length - 20) * 10 ^ 20 := by rw [← pow_add]; congr 1; omega
    have hten : 2 ≤ 10 ^ (ds.length - 20) := by
      calc 2 ≤ 10 ^ 1 := by decide
        _ ≤ 10 ^ (ds.length - 20) := Nat.pow_le_pow_right (by decide) (by omega)
    have hmore : valueOf ds < n.toNat * 10 ^ (ds.length - 20) :=
      lt_of_lt_of_le (by omega) (Nat.mul_le_mul_left n.toNat hten)
    rw [hsplit, ← Nat.mul_assoc, Nat.mul_lt_mul_right (by decide)]
    omega

/-- Where a key that carries a number stands among the written keys of numbers that are no less. -/
theorem lt_keyOf_iff {key : String} {m n : UInt64} (h : sequence? key = some m) (hle : m.toNat ≤ n.toNat)
    (hpos : 0 < n.toNat) : key < keyOf n ↔ Below key n.toNat := by
  obtain ⟨sign, ds, hkey, hsign, -, hds, hv⟩ := sequence?_eq_some_iff.mp h
  rw [String.lt_iff_toList_lt, toList_keyOf, hkey, append_lt_append_iff]
  rcases hsign with rfl | rfl
  · rw [List.nil_append] at hkey ⊢
    rw [digits_lt_padded_iff hds (hv ▸ hle) hpos]
    constructor
    · intro hbelow es _ hes
      obtain rfl := List.append_cancel_left (hkey.symm.trans hes)
      exact hbelow
    · exact fun hbelow => hbelow ds hds hkey
  · refine iff_of_true (plus_lt_padded _ _ _) fun es hes hkey' => ?_
    obtain rfl := List.append_cancel_left (hkey.symm.trans hkey')
    exact absurd (hes '+' List.mem_cons_self) (by decide)

end Log
end AdAdmission
