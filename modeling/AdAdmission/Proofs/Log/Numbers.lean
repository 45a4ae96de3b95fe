import Mathlib
import AdAdmission.Proofs.Log.Keys
import AdAdmission.Proofs.Text.Utf8

/-! Keys and the numbers they denote. A key that the log writes has twenty-nine bytes, and the bytes of two such keys
    are ordered like their numbers, up to the greatest one. Of all texts, those denote a number that have
    decimal digits behind the stem, with or without a plus sign before them. The log takes such a key when its
    number fits a word, and blames every other key. -/

namespace AdAdmission
namespace Text

/-- Digits count ones, tens, hundreds and so on from the right. -/
theorem valueOf_eq_ofDigits (cs : List Char) : valueOf cs = Nat.ofDigits 10 (cs.reverse.map digitValue) := by
  induction cs with
  | nil => rfl
  | cons c cs ih =>
    rw [valueOf_cons, ih, List.reverse_cons, List.map_append, Nat.ofDigits_append, List.length_map,
      List.length_reverse, List.map_singleton, Nat.ofDigits_singleton, Nat.add_comm, Nat.mul_comm]

/-- An ASCII text has as many bytes as characters. -/
theorem length_bytes {cs : List Char} (h : ∀ c ∈ cs, c.toNat ≤ 127) : (bytes cs).length = cs.length := by
  induction cs with
  | nil => rfl
  | cons c cs ih =>
    obtain ⟨hc, hcs⟩ := List.forall_mem_cons.mp h
    have hone : c.utf8Size = 1 := Char.utf8Size_eq_one_iff.mpr (UInt32.le_iff_toNat_le.mpr hc)
    have hbytes : bytes (c :: cs) = String.utf8EncodeChar c ++ bytes cs := List.flatMap_cons
    rw [hbytes, List.length_append, String.length_utf8EncodeChar, hone, ih hcs, List.length_cons, Nat.add_comm]

end Text

namespace Log
open Text

/-! ### Written keys -/

theorem size_keyOf (n : UInt64) : (keyOf n).toUTF8.size = 29 := by
  have hstem : ∀ c ∈ keyStem.toList, c.toNat ≤ 127 := by simp [keyStem]
  have hascii : ∀ c ∈ (keyOf n).toList, c.toNat ≤ 127 := by
    intro c hc
    rw [toList_keyOf] at hc
    rcases List.mem_append.mp hc with hc | hc
    · exact hstem c hc
    · exact le_trans (isDigit_iff.mp (allDigits_padded _ _ c hc)).2 (by decide)
  calc (keyOf n).toUTF8.size = (bytes (keyOf n).toList).length := by rw [bytes_toList, Array.length_toList]; rfl
    _ = (keyOf n).toList.length := length_bytes hascii
    _ = 29 := by rw [toList_keyOf, List.length_append, length_padded_word]; rfl

/-! ### All texts -/

/-- Behind the stem stand decimal digits, with or without a plus sign before them, and they make this number. -/
def Denotes (key : String) (n : ℕ) : Prop :=
  ∃ sign ds, key = keyStem ++ sign ++ ds ∧ (sign = "" ∨ sign = "+") ∧ ds ≠ "" ∧
    (∀ c ∈ ds.toList, '0' ≤ c ∧ c ≤ '9') ∧ Nat.ofDigits 10 (ds.toList.reverse.map digitValue) = n

theorem sequence?_eq_some_iff_denotes {key : String} {n : UInt64} : sequence? key = some n ↔ Denotes key n.toNat := by
  rw [sequence?_eq_some_iff]
  constructor
  · rintro ⟨sign, ds, hkey, hsign, hne, hds, hv⟩
    refine ⟨String.ofList sign, String.ofList ds, ?_, ?_, ?_, ?_, ?_⟩
    · rw [← String.toList_inj]
      simp [hkey]
    · rcases hsign with rfl | rfl
      · exact Or.inl rfl
      · exact Or.inr rfl
    · simpa using hne
    · rw [String.toList_ofList]
      exact fun c hc => isDigit_iff.mp (hds c hc)
    · rw [String.toList_ofList, ← valueOf_eq_ofDigits, hv]
  · rintro ⟨sign, ds, rfl, hsign, hne, hds, hv⟩
    refine ⟨sign.toList, ds.toList, by simp, ?_, by simpa using hne, fun c hc => isDigit_iff.mpr (hds c hc), ?_⟩
    · rcases hsign with rfl | rfl
      · exact Or.inl rfl
      · exact Or.inr rfl
    · rw [valueOf_eq_ofDigits, hv]

theorem sequence?_eq_none_iff_denotes {key : String} : sequence? key = none ↔ ¬∃ n < 2 ^ 64, Denotes key n := by
  rw [Option.eq_none_iff_forall_ne_some, not_exists]
  constructor
  · rintro h n ⟨hlt, hn⟩
    refine h (UInt64.ofNat n) (sequence?_eq_some_iff_denotes.mpr ?_)
    rwa [UInt64.toNat_ofNat_of_lt' hlt]
  · intro h n hn
    exact h n.toNat ⟨n.toNat_lt, sequence?_eq_some_iff_denotes.mp hn⟩

/-- A record is blamed for its key just when that carries no number, whatever came before it and whatever it holds. -/
theorem load_eq_badKey_iff {state : History × UInt64} {key : String} {value : ByteArray} :
    load state (key, value) = .error (.corrupt key .badKey) ↔ sequence? key = none := by
  rw [load]
  cases sequence? key with
  | none => simp
  | some n =>
    cases Event.decode? value with
    | none => simp
    | some e => cases hp : precedes? state.1 e <;> simp [hp]

/-- The bytes of written keys are ordered like the numbers, and each written key has the same number of bytes, begins
    with the stem and reads back as its number. Of all texts, those are read that have digits of a number below
    `2 ^ 64` behind the stem, with or without a plus sign before them, and give that number. The others are blamed
    by name. -/
theorem keys_ordered_like_numbers :
    (∀ a b : UInt64, a < b ↔ (keyOf a).toUTF8.data.toList < (keyOf b).toUTF8.data.toList) ∧
      (∀ a : UInt64, (keyOf a).toUTF8.size = 29 ∧ beginsWith "ad_event/" (keyOf a) = true ∧
        sequence? (keyOf a) = some a) ∧
      ∀ key : String, (∀ n : UInt64, sequence? key = some n ↔ Denotes key n.toNat) ∧
        ∀ state value, load state (key, value) = .error (.corrupt key .badKey) ↔ ¬∃ n < 2 ^ 64, Denotes key n := by
  refine ⟨fun a b => ?_, fun a => ⟨size_keyOf a, beginsWith_keyOf a, sequence?_keyOf a⟩, fun key => ⟨fun n => ?_, ?_⟩⟩
  · rw [← lt_iff_toUTF8_lt, keyOf_lt_keyOf, UInt64.lt_iff_toNat_lt]
  · exact sequence?_eq_some_iff_denotes
  · intro state value
    rw [load_eq_badKey_iff, sequence?_eq_none_iff_denotes]

example : sequence? "ad_event/+007" = some 7 := by decide

example : sequence? "ad_event/18446744073709551616" = none := by decide

end Log
end AdAdmission
