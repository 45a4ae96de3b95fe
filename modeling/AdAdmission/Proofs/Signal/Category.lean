import Mathlib
import AdAdmission.Candidate.Record
import AdAdmission.Proofs.Json.RoundTrip
import AdAdmission.Proofs.Value.Fields

/-! Signals and coarse categories. The category of a segment is what stands before the first separator, without
    all that is neither a letter nor a digit of ASCII and with small letters only. A signal names the surface and the
    category, if there is one, so two signals are the same just when these are, and so are the JSON texts of them. -/

namespace AdAdmission

theorem AdKind.name_injective : Function.Injective name := by
  intro k other h
  have hsome := congrArg ofName? h
  rw [ofName?_name, ofName?_name] at hsome
  exact Option.some_inj.mp hsome

namespace Signal

/-! ### Coarse categories -/

/-- The parent is what stands before the first separator of the text, or the whole text where there is none. -/
def IsParent (text parent : String) : Prop :=
  '-' ∉ parent.toList ∧ (text = parent ∨ ∃ child, text = parent ++ "-" ++ child)

/-- A small letter or a digit of ASCII. -/
def IsPlain (c : Char) : Prop := 'a' ≤ c ∧ c ≤ 'z' ∨ '0' ≤ c ∧ c ≤ '9'

instance (c : Char) : Decidable (IsPlain c) := inferInstanceAs (Decidable (_ ∨ _))

/-- What is left of a character: a small letter or a digit stays, a capital letter becomes small, and others go. -/
def plain? (c : Char) : Option Char :=
  if IsPlain c then some c else if 'A' ≤ c ∧ c ≤ 'Z' then some (Char.ofNat (c.toNat + 32)) else none

/-- The category is what is left of the parent, character by character. -/
def IsCategory (text category : String) : Prop :=
  ∃ parent, IsParent text parent ∧ category.toList = parent.toList.filterMap plain?

theorem isParent_iff {text parent : String} :
    IsParent text parent ↔ parent.toList = text.toList.takeWhile (· != '-') := by
  constructor
  · rintro ⟨hfree, htext⟩
    have hall : ∀ c ∈ parent.toList, (c != '-') = true := fun c hc => by
      simpa using fun heq : c = '-' => hfree (heq ▸ hc)
    rcases htext with rfl | ⟨child, rfl⟩
    · exact (List.takeWhile_eq_self_iff.mpr hall).symm
    · rw [String.toList_append, String.toList_append, List.append_assoc, List.takeWhile_append_of_pos hall]
      simp
  · intro h
    have hfree : '-' ∉ parent.toList := fun hmem => by
      rw [h] at hmem
      simpa using List.mem_takeWhile_imp hmem
    refine ⟨hfree, ?_⟩
    have hsplit := List.takeWhile_append_dropWhile (p := (· != '-')) (l := text.toList)
    rw [← h] at hsplit
    cases hrest : text.toList.dropWhile (· != '-') with
    | nil =>
      rw [hrest, List.append_nil] at hsplit
      exact Or.inl (String.toList_inj.mp hsplit.symm)
    | cons c child =>
      have hhead := List.head?_dropWhile_not (· != '-') text.toList
      rw [hrest, List.head?_cons] at hhead
      obtain rfl : c = '-' := by simpa using hhead
      refine Or.inr ⟨String.ofList child, String.toList_inj.mp ?_⟩
      rw [← hsplit, hrest]
      simp

theorem isPlain_iff {c : Char} : IsPlain c ↔ c.isLower = true ∨ c.isDigit = true := by
  simp [IsPlain, Char.isLower, Char.isDigit, Char.le_def]

theorem not_isUpper_of_isPlain {c : Char} (h : IsPlain c) : ¬c.isUpper = true := by
  rcases isPlain_iff.mp h with h | h
  · exact Char.not_isUpper_of_isLower h
  · simp only [Char.isUpper, Char.isDigit, UInt32.le_iff_toNat_le, Bool.and_eq_true, decide_eq_true_eq, ge_iff_le,
      Char.reduceVal, UInt32.reduceToNat] at h ⊢
    omega

theorem plain?_eq (c : Char) : plain? c = if c.isAlphanum then some c.toLower else none := by
  have hcapital : ('A' ≤ c ∧ c ≤ 'Z') ↔ c.isUpper = true := by simp [Char.isUpper, Char.le_def]
  have halnum : c.isAlphanum = true ↔ c.isUpper = true ∨ IsPlain c := by
    rw [isPlain_iff, Char.isAlphanum, Char.isAlpha, Bool.or_eq_true, Bool.or_eq_true, or_assoc]
  unfold plain?
  by_cases hplain : IsPlain c
  · rw [if_pos hplain, if_pos (halnum.mpr (Or.inr hplain)),
      Char.toLower_eq_of_not_isUpper (not_isUpper_of_isPlain hplain)]
  · rw [if_neg hplain]
    by_cases hupper : c.isUpper = true
    · rw [if_pos (hcapital.mpr hupper), if_pos (halnum.mpr (Or.inl hupper)), Char.toLower_eq_of_isUpper hupper]
    · rw [if_neg (mt hcapital.mp hupper), if_neg (mt halnum.mp (not_or.mpr ⟨hupper, hplain⟩))]

theorem filterMap_plain? (cs : List Char) : cs.filterMap plain? = (cs.filter Char.isAlphanum).map Char.toLower := by
  induction cs with
  | nil => rfl
  | cons c cs ih =>
    rw [List.filterMap_cons, plain?_eq]
    cases hc : c.isAlphanum with
    | true => simp [hc, ih]
    | false => simp [hc, ih]

theorem isPlain_toLower {c : Char} (h : c.isAlphanum = true) : IsPlain c.toLower := by
  rw [Char.isAlphanum, Bool.or_eq_true] at h
  rcases h with h | h
  · exact isPlain_iff.mpr (Or.inl ((Char.isLower_toLower_eq_isAlpha c).trans h))
  · have hplain : IsPlain c := isPlain_iff.mpr (Or.inr h)
    rwa [Char.toLower_eq_of_not_isUpper (not_isUpper_of_isPlain hplain)]

theorem plain?_of_isPlain {c : Char} (h : IsPlain c) : plain? c = some c := if_pos h

theorem filterMap_plain?_of_isPlain {cs : List Char} (h : ∀ c ∈ cs, IsPlain c) : cs.filterMap plain? = cs := by
  rw [List.filterMap_congr fun c hc => plain?_of_isPlain (h c hc), List.filterMap_some]

theorem IsPlain.not_blank {c : Char} (h : IsPlain c) : Text.isBlankChar c = false := by
  have hbounds : 48 ≤ c.val.toNat ∧ c.val.toNat ≤ 122 := by
    simp only [IsPlain, Char.le_def, UInt32.le_iff_toNat_le, Char.reduceVal, UInt32.reduceToNat] at h
    omega
  simp only [Text.isBlankChar, Bool.or_eq_false_iff, Bool.and_eq_false_iff, decide_eq_false_iff_not, beq_eq_false_iff_ne,
    UInt32.le_iff_toNat_le, ne_eq, ← UInt32.toNat_inj, UInt32.reduceToNat]
  omega

theorem IsPlain.ne_separator {c : Char} (h : IsPlain c) : c ≠ '-' := by
  rintro rfl
  exact absurd h (by decide)

/-! ### The category of a segment -/

variable {s : Segment} {text : String}

theorem toList_parent (s : Segment) : s.parent.toList = s.text.toList.takeWhile (· != '-') := String.toList_ofList

theorem toList_category (s : Segment) : (category s).toList = s.parent.toList.filterMap plain? := by
  rw [category, normalize, String.toList_ofList, filterMap_plain?]

/-- A segment has one coarse category, and it is the one that signals name. -/
theorem isCategory_iff : IsCategory s.text text ↔ text = category s := by
  rw [← String.toList_inj, toList_category]
  constructor
  · rintro ⟨parent, hparent, htext⟩
    rw [htext, isParent_iff.mp hparent, toList_parent]
  · exact fun h => ⟨s.parent, isParent_iff.mpr (toList_parent s), h⟩

theorem isPlain_of_mem_category {c : Char} (h : c ∈ (category s).toList) : IsPlain c := by
  rw [category, normalize, String.toList_ofList] at h
  obtain ⟨b, hb, rfl⟩ := List.mem_map.mp h
  exact isPlain_toLower (List.mem_filter.mp hb).2

/-- A text of small letters and digits alone is its own category. -/
theorem category_of_isPlain (h : ∀ c ∈ s.text.toList, IsPlain c) : category s = s.text := by
  have hparent : s.text.toList.takeWhile (· != '-') = s.text.toList :=
    List.takeWhile_eq_self_iff.mpr fun c hc => by simpa using (h c hc).ne_separator
  rw [← String.toList_inj, toList_category, toList_parent, hparent, filterMap_plain?_of_isPlain h]

theorem exists_segment_of_category (h : category s ≠ "") :
    ∃ t, Segment.ofText? (category s) = some t ∧ questionsFor t = questionsFor s := by
  have hblank : Text.isBlank (category s) = false := by
    obtain ⟨c, cs, hcs⟩ := List.exists_cons_of_ne_nil (mt String.toList_eq_nil_iff.mp h)
    have hmem : c ∈ (category s).toList := hcs ▸ List.mem_cons_self
    exact Text.isBlank_eq_false_iff.mpr ⟨c, hmem, (isPlain_of_mem_category hmem).not_blank⟩
  refine ⟨⟨category s, hblank⟩, Segment.ofText?_eq_some_iff.mpr rfl, questionsFor_of_category_eq ?_⟩
  exact category_of_isPlain fun _ => isPlain_of_mem_category

/-- The text is the coarse category of the segment, and what the questions of the segment tell of it. -/
structure Asks (s : Segment) (text : String) : Prop where
  coarse : IsCategory s.text text
  plain : ∀ c ∈ text.toList, IsPlain c
  silent : text = "" → questionsFor s = [totalQuestion]
  told : text ≠ "" → questionsFor s = [segmentQuestion ++ text, totalQuestion]
  again : text ≠ "" → ∃ t, Segment.ofText? text = some t ∧ questionsFor t = questionsFor s

theorem asks_category (s : Segment) : Asks s (category s) where
  coarse := isCategory_iff.mpr rfl
  plain _ := isPlain_of_mem_category
  silent h := by rw [questionsFor, if_pos h]
  told h := by rw [questionsFor, if_neg h]
  again := exists_segment_of_category

/-! ### Equal signals -/

theorem questionsFor_eq_iff {t : Segment} : questionsFor s = questionsFor t ↔ category s = category t := by
  refine ⟨fun h => ?_, questionsFor_of_category_eq⟩
  unfold questionsFor at h
  split at h <;> split at h
  · rename_i hs ht
    rw [hs, ht]
  · simp at h
  · simp at h
  · exact String.append_right_inj _ |>.mp (List.cons.inj h).1

theorem impression_eq_iff {k l : AdKind} {t : Segment} :
    impression k s = impression l t ↔ k = l ∧ category s = category t := by
  rw [impression, impression, mk.injEq, questionsFor_eq_iff, String.append_left_inj, AdKind.name_injective.eq_iff]

/-! ### Signals in JSON -/

theorem mapM_text?_ofText (texts : List String) : (texts.map Json.ofText).mapM Json.text? = some texts :=
  Eq.trans (mapM_map_eq_some (k := id) fun _ _ => rfl) (congrArg some (List.map_id texts))

theorem ofJson?_toJson (s : Signal) : ofJson? s.toJson = some s := by
  have hfields : s.toJson.fields? ["name", "questions"] =
      some [some (.ofText s.name), some (.array (s.questions.map .ofText))] := by
    rw [toJson, Json.fields?_ofMembers]
    exact Fields.select?_of_subset (by simp) (List.Subset.refl _)
  rw [ofJson?, hfields]
  simp only [Option.bind_eq_bind, Option.bind_some, Json.ofText, Json.text?, mapM_text?_ofText, Option.pure_def]

theorem written_toJson (s : Signal) : s.toJson.Written := by
  have hquestions : (Json.array (s.questions.map .ofText)).Written := Json.written_array fun j hj => by
    obtain ⟨text, -, rfl⟩ := List.mem_map.mp hj
    trivial
  refine Json.written_ofMembers fun m hm => ?_
  rcases List.mem_cons.mp hm with rfl | hm
  · trivial
  · exact List.mem_singleton.mp hm ▸ hquestions

/-- A signal is read back from its JSON text. -/
theorem parse?_compact (s : Signal) : parse? s.toJson.compact = some s := by
  rw [parse?, Json.parse?_compact s.written_toJson, Option.bind_some, ofJson?_toJson]

theorem compact_eq_iff {s t : Signal} : s.toJson.compact = t.toJson.compact ↔ s = t := by
  refine ⟨fun h => ?_, fun h => h ▸ rfl⟩
  have hparse := congrArg parse? h
  rw [parse?_compact, parse?_compact] at hparse
  exact Option.some_inj.mp hparse

end Signal
end AdAdmission
