import Mathlib
import AdAdmission.Text.Utf8

/-! UTF-8. The bytes of a text read back as its characters, with no stray byte among them, and the order
    of texts by character is the order of their bytes. -/

namespace AdAdmission
namespace Text

/-! ### Reading back -/

theorem utf8DecodeChar?_append (lead rest : ByteArray) (c : Char) :
    (lead ++ ([c].utf8Encode ++ rest)).utf8DecodeChar? lead.size = some c := by
  have hx : (lead ++ ([c].utf8Encode ++ rest)).extract lead.size (lead ++ ([c].utf8Encode ++ rest)).size =
      [c].utf8Encode ++ rest := ByteArray.extract_append_eq_right rfl ByteArray.size_append
  rw [ByteArray.utf8DecodeChar?_eq_utf8DecodeChar?_extract, hx, List.utf8DecodeChar?_utf8Encode_singleton_append]

theorem size_utf8Encode_singleton (c : Char) : [c].utf8Encode.size = c.utf8Size := by
  rw [List.utf8Encode_singleton, List.size_toByteArray, String.length_utf8EncodeChar]

/-- Reading goes on after the bytes of the characters before. -/
theorem glyphsFrom_append (lead : ByteArray) (cs : List Char) :
    glyphsFrom (lead ++ cs.utf8Encode) lead.size = cs.map Glyph.char := by
  induction cs generalizing lead with
  | nil =>
    rw [glyphsFrom, dif_neg (by simp)]
    rfl
  | cons c cs ih =>
    have hpos := c.utf8Size_pos
    have hsize := size_utf8Encode_singleton c
    have hnext := ih (lead ++ [c].utf8Encode)
    rw [ByteArray.append_assoc, ByteArray.size_append, hsize] at hnext
    rw [List.utf8Encode_cons, glyphsFrom, dif_pos (by simp only [ByteArray.size_append]; omega),
      utf8DecodeChar?_append]
    exact congrArg (Glyph.char c :: ·) hnext

theorem decode_toUTF8 (s : String) : decode s.toUTF8 = glyphs s := by
  have h := glyphsFrom_append ByteArray.empty s.toList
  rw [ByteArray.empty_append, String.utf8Encode_toList] at h
  exact h

/-! ### Order -/

/-- The bytes of a text, in order. -/
def bytes (cs : List Char) : List UInt8 := cs.flatMap String.utf8EncodeChar

theorem bytes_toList (s : String) : bytes s.toList = s.toUTF8.data.toList := by
  rw [String.toUTF8_eq_toByteArray, ← String.utf8Encode_toList]
  simp [bytes, List.utf8Encode]

theorem ofNat_lt_ofNat {m n : Nat} (hm : m < 256) (hn : n < 256) :
    UInt8.ofNat m < UInt8.ofNat n ↔ m < n := by
  rw [UInt8.lt_iff_toNat_lt, UInt8.toNat_ofNat_of_lt' hm, UInt8.toNat_ofNat_of_lt' hn]

theorem ofNat_eq_ofNat {m n : Nat} (hm : m < 256) (hn : n < 256) :
    UInt8.ofNat m = UInt8.ofNat n ↔ m = n := by
  rw [← UInt8.toNat_inj, UInt8.toNat_ofNat_of_lt' hm, UInt8.toNat_ofNat_of_lt' hn]

/-- Of two numbers of four places in base 64, the places decide which is less. -/
theorem places_lt {a b c d a' b' c' d' : Nat} {p : Prop} (hb : b < 64) (hc : c < 64) (hd : d < 64)
    (hb' : b' < 64) (hc' : c' < 64) (hd' : d' < 64)
    (h : 262144 * a + 4096 * b + 64 * c + d < 262144 * a' + 4096 * b' + 64 * c' + d') :
    a < a' ∨ a = a' ∧ (b < b' ∨ b = b' ∧ (c < c' ∨ c = c' ∧ (d < d' ∨ d = d' ∧ p))) := by
  omega

/-- The bytes of the lesser of two characters are decided to be less before either of them ends. -/
theorem utf8EncodeChar_append_lt {c d : Char} (h : c < d) (bs cs : List UInt8) :
    String.utf8EncodeChar c ++ bs < String.utf8EncodeChar d ++ cs := by
  have hlt : c.val.toNat < d.val.toNat := h
  have hd : d.val.toNat < 1114112 := by
    rcases d.valid with hv | hv
    · exact lt_trans hv (by decide)
    · exact hv.2
  unfold String.utf8EncodeChar
  dsimp only
  generalize c.val.toNat = m at *
  generalize d.val.toNat = n at *
  by_cases hm : m ≤ 0xffff
  · split_ifs <;> simp only [List.cons_append, List.nil_append, List.cons_lt_cons_iff] <;>
      simp (disch := omega) only [ofNat_lt_ofNat, ofNat_eq_ofNat] <;> omega
  · rw [if_neg (by omega), if_neg (by omega), if_neg hm, if_neg (by omega), if_neg (by omega), if_neg (by omega)]
    simp only [List.cons_append, List.nil_append, List.cons_lt_cons_iff]
    simp (disch := omega) only [ofNat_lt_ofNat, ofNat_eq_ofNat, Nat.add_lt_add_iff_right, Nat.add_right_cancel_iff]
    exact places_lt (by omega) (by omega) (by omega) (by omega) (by omega) (by omega) (by omega)

theorem bytes_lt_bytes {cs ds : List Char} (h : cs < ds) : bytes cs < bytes ds := by
  induction cs generalizing ds with
  | nil =>
    cases ds with
    | nil => exact absurd h (List.lt_irrefl _)
    | cons d ds =>
      obtain ⟨b, bs, hb⟩ := List.exists_cons_of_ne_nil (String.utf8EncodeChar_ne_nil (c := d))
      simp [bytes, hb]
  | cons c cs ih =>
    cases ds with
    | nil => simp at h
    | cons d ds =>
      rcases List.cons_lt_cons_iff.mp h with hlt | ⟨rfl, hlt⟩
      · exact utf8EncodeChar_append_lt hlt _ _
      · exact List.append_left_lt (ih hlt)

/-- The bytes of a text begin with the bytes of another just when its characters do. -/
theorem bytes_prefix_bytes_iff {cs ds : List Char} : bytes cs <+: bytes ds ↔ cs <+: ds := by
  refine ⟨fun h => ?_, fun ⟨t, h⟩ => ⟨bytes t, by rw [← h, bytes, bytes, bytes, List.flatMap_append]⟩⟩
  induction cs generalizing ds with
  | nil => exact List.nil_prefix
  | cons c cs ih =>
    cases ds with
    | nil => exact absurd (List.prefix_nil.mp h) (by simp [bytes])
    | cons d ds =>
      obtain ⟨bs, h⟩ := h
      have h : String.utf8EncodeChar c ++ (bytes cs ++ bs) = String.utf8EncodeChar d ++ bytes ds := by
        rw [← List.append_assoc]
        exact h
      -- Two different characters would put their texts in order, however these go on.
      rcases lt_trichotomy c d with hlt | rfl | hgt
      · exact absurd (h ▸ utf8EncodeChar_append_lt hlt (bytes cs ++ bs) (bytes ds)) (List.lt_irrefl _)
      · exact (List.prefix_cons_inj c).mpr (ih ⟨bs, List.append_cancel_left h⟩)
      · exact absurd (h ▸ utf8EncodeChar_append_lt hgt (bytes ds) (bytes cs ++ bs)) (List.lt_irrefl _)

/-- The order of texts by character is the order of their bytes. -/
theorem lt_iff_toUTF8_lt {s t : String} : s < t ↔ s.toUTF8.data.toList < t.toUTF8.data.toList := by
  rw [← bytes_toList, ← bytes_toList]
  refine ⟨bytes_lt_bytes, fun h => ?_⟩
  rcases Std.lt_trichotomy s t with hlt | rfl | hgt
  · exact hlt
  · exact absurd h (List.lt_irrefl _)
  · exact absurd h (List.lt_asymm (bytes_lt_bytes hgt))

end Text
end AdAdmission
