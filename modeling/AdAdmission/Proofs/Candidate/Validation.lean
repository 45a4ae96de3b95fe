import Mathlib
import AdAdmission.Proofs.Delivery.Steps
import AdAdmission.Proofs.List.First

/-! Validation of candidates. The identifier is looked at first, then the segment, then the texts of the creative
    and last its addresses, each of them for being blank and only then for not being of the web. A candidate is
    valid when nothing is wrong at any of these places, and otherwise the first place where something is wrong
    is blamed. So a blank text is blamed even if an address stands before it in the creative and is no better. -/

namespace AdAdmission

/-! ### Fields -/

namespace Creative

/-- The names of the fields that hold an address. -/
def isUrlField (name : String) : Bool := name == "image_url" || name == "target_url"

/-- The lists of texts and of addresses leave out no field, and each keeps the order of the fields. -/
theorem textFields_eq_filter (c : Creative) : c.textFields = c.fields.filter (!isUrlField ·.1) := by
  cases c <;> rfl

theorem urlFields_eq_filter (c : Creative) : c.urlFields = c.fields.filter (isUrlField ·.1) := by
  cases c <;> rfl

end Creative

/-! ### Valid candidates -/

/-- A text that parses as an address with one of the two schemes of the web. -/
def WebAddress (value : String) : Prop := Url.scheme value = .ok "http" ∨ Url.scheme value = .ok "https"

/-- Every field has a character besides white space, and the addresses are of the web. -/
def Creative.Sound : Creative → Prop
  | .notification title body targetUrl =>
    Text.Inked title ∧ Text.Inked body ∧ Text.Inked targetUrl ∧ WebAddress targetUrl
  | .newTabPageAd companyName imageUrl alt targetUrl =>
    Text.Inked companyName ∧ Text.Inked imageUrl ∧ WebAddress imageUrl ∧ Text.Inked alt ∧ Text.Inked targetUrl ∧
      WebAddress targetUrl
  | .inlineContentAd title description imageUrl dimensions ctaText targetUrl =>
    Text.Inked title ∧ Text.Inked description ∧ Text.Inked imageUrl ∧ WebAddress imageUrl ∧ Text.Inked dimensions ∧
      Text.Inked ctaText ∧ Text.Inked targetUrl ∧ WebAddress targetUrl
  | .promotedContent title description targetUrl =>
    Text.Inked title ∧ Text.Inked description ∧ Text.Inked targetUrl ∧ WebAddress targetUrl

namespace Candidate

/-- The identifier and the segment have a character besides white space, and the creative is sound. -/
structure Valid (c : Candidate) : Prop where
  adIdentifier : Text.Inked c.adIdentifier
  segment : Text.Inked c.segment
  creative : c.creative.Sound

/-- The places of a candidate that are looked at. A field goes by its position among all the fields of the creative. -/
inductive Place where
  | adIdentifier
  | segment
  | text (i : ℕ)
  | address (i : ℕ)

/-- Which place is looked at before which. -/
inductive Place.Before : Place → Place → Prop where
  | identifier_segment : Before .adIdentifier .segment
  | identifier_text {i : ℕ} : Before .adIdentifier (.text i)
  | identifier_address {i : ℕ} : Before .adIdentifier (.address i)
  | segment_text {i : ℕ} : Before .segment (.text i)
  | segment_address {i : ℕ} : Before .segment (.address i)
  | text_text {i j : ℕ} (h : i < j) : Before (.text i) (.text j)
  | text_address {i j : ℕ} : Before (.text i) (.address j)
  | address_address {i j : ℕ} (h : i < j) : Before (.address i) (.address j)

/-- Why a text is no address of the web. -/
inductive Unfit (value : String) : String → Prop where
  | unreadable {e : Url.ParseError} (h : Url.scheme value = .error e) : Unfit value e.message
  | otherScheme {scheme : String} (h : Url.scheme value = .ok scheme) (hhttp : scheme ≠ "http")
    (hhttps : scheme ≠ "https") : Unfit value ("scheme \"" ++ scheme ++ "\" is not http or https")

/-- What is wrong with a candidate at a place. -/
inductive Wrong (c : Candidate) : Place → CandidateError → Prop where
  | adIdentifier (h : ¬Text.Inked c.adIdentifier) : Wrong c .adIdentifier .emptyAdIdentifier
  | segment (h : ¬Text.Inked c.segment) : Wrong c .segment .emptySegment
  | text {i : ℕ} {name value : String} (hfield : c.creative.fields[i]? = some (name, value))
    (hname : Creative.isUrlField name = false) (h : ¬Text.Inked value) : Wrong c (.text i) (.missingField c.kind name)
  | blankAddress {i : ℕ} {name value : String} (hfield : c.creative.fields[i]? = some (name, value))
    (hname : Creative.isUrlField name = true) (h : ¬Text.Inked value) : Wrong c (.address i) (.missingField c.kind name)
  | badAddress {i : ℕ} {name value reason : String} (hfield : c.creative.fields[i]? = some (name, value))
    (hname : Creative.isUrlField name = true) (hinked : Text.Inked value) (h : Unfit value reason) :
    Wrong c (.address i) (.invalidUrl name value reason)

/-- Something is wrong at this place, and nothing at the places that are looked at before it. -/
structure FirstWrong (c : Candidate) (p : Place) (e : CandidateError) : Prop where
  wrong : Wrong c p e
  earlier : ∀ q, q.Before p → ∀ other, ¬Wrong c q other

variable {c : Candidate} {e : CandidateError}

/-! ### One field -/

section Field
variable {kind : AdKind} {name value reason : String}

theorem urlFault?_eq_some_iff : urlFault? value = some reason ↔ Unfit value reason := by
  rw [urlFault?]
  constructor
  · intro h
    cases hs : Url.scheme value with
    | error e =>
      rw [hs] at h
      cases h
      exact .unreadable hs
    | ok scheme =>
      simp only [hs] at h
      split at h
      · cases h
      · rename_i hother
        obtain ⟨hhttp, hhttps⟩ := not_or.mp hother
        cases h
        exact .otherScheme hs hhttp hhttps
  · rintro (hs | ⟨hs, hhttp, hhttps⟩)
    · rw [hs]
    · simp [hs, hhttp, hhttps]

theorem urlFault?_eq_none_iff : urlFault? value = none ↔ WebAddress value := by
  rw [urlFault?, WebAddress]
  cases Url.scheme value with
  | error e => simp
  | ok scheme =>
    by_cases hweb : scheme = "http" ∨ scheme = "https"
    · simp [hweb]
    · simp [not_or.mp hweb]

theorem textFault?_eq_some_iff :
    textFault? kind (name, value) = some e ↔ ¬Text.Inked value ∧ e = .missingField kind name := by
  rw [← Text.isBlank_eq_true_iff, textFault?]
  by_cases hblank : Text.isBlank value = true <;> simp [hblank, eq_comm]

theorem textFault?_eq_none_iff : textFault? kind (name, value) = none ↔ Text.Inked value := by
  rw [← Text.isBlank_eq_false_iff, textFault?]
  cases Text.isBlank value <;> simp

theorem urlFieldFault?_eq_some_iff : urlFieldFault? kind (name, value) = some e ↔
    ¬Text.Inked value ∧ e = .missingField kind name ∨
      Text.Inked value ∧ ∃ reason, Unfit value reason ∧ e = .invalidUrl name value reason := by
  rw [← Text.isBlank_eq_true_iff, ← Text.isBlank_eq_false_iff, urlFieldFault?]
  simp only [← urlFault?_eq_some_iff]
  cases Text.isBlank value <;> simp [eq_comm]

theorem urlFieldFault?_eq_none_iff :
    urlFieldFault? kind (name, value) = none ↔ Text.Inked value ∧ WebAddress value := by
  rw [← Text.isBlank_eq_false_iff, ← urlFault?_eq_none_iff, urlFieldFault?]
  cases Text.isBlank value <;> simp

end Field

/-! ### The fields of a creative -/

theorem wrong_text_iff {i : ℕ} {e : CandidateError} : Wrong c (.text i) e ↔
    ∃ x, c.creative.fields[i]? = some x ∧
      (if !Creative.isUrlField x.1 then textFault? c.kind x else none) = some e := by
  constructor
  · intro hwrong
    cases hwrong with
    | text hfield hname h => exact ⟨_, hfield, by simpa [hname] using textFault?_eq_some_iff.mpr ⟨h, rfl⟩⟩
  · rintro ⟨⟨name, value⟩, hfield, h⟩
    split at h
    · rename_i hname
      obtain ⟨hblank, rfl⟩ := textFault?_eq_some_iff.mp h
      exact .text hfield (by simpa using hname) hblank
    · cases h

theorem wrong_address_iff {i : ℕ} {e : CandidateError} : Wrong c (.address i) e ↔
    ∃ x, c.creative.fields[i]? = some x ∧
      (if Creative.isUrlField x.1 then urlFieldFault? c.kind x else none) = some e := by
  constructor
  · intro hwrong
    cases hwrong with
    | blankAddress hfield hname h =>
      exact ⟨_, hfield, by simpa [hname] using urlFieldFault?_eq_some_iff.mpr (Or.inl ⟨h, rfl⟩)⟩
    | badAddress hfield hname hinked h =>
      exact ⟨_, hfield, by simpa [hname] using urlFieldFault?_eq_some_iff.mpr (Or.inr ⟨hinked, _, h, rfl⟩)⟩
  · rintro ⟨⟨name, value⟩, hfield, h⟩
    split at h
    · rename_i hname
      rcases urlFieldFault?_eq_some_iff.mp h with ⟨hblank, rfl⟩ | ⟨hinked, reason, hunfit, rfl⟩
      · exact .blankAddress hfield hname hblank
      · exact .badAddress hfield hname hinked hunfit
    · cases h

/-- The search through the texts finds what is wrong at the first position of a wrong text. -/
theorem textFields_findSome?_eq_some_iff : c.creative.textFields.findSome? (textFault? c.kind) = some e ↔
    ∃ i, Wrong c (.text i) e ∧ ∀ j < i, ∀ other, ¬Wrong c (.text j) other := by
  rw [Creative.textFields_eq_filter, First.findSome?_filter]
  exact First.findSome?_eq_some_iff_of fun _ _ => wrong_text_iff

theorem textFields_findSome?_eq_none_iff : c.creative.textFields.findSome? (textFault? c.kind) = none ↔
    ∀ i other, ¬Wrong c (.text i) other := by
  rw [Creative.textFields_eq_filter, First.findSome?_filter]
  exact First.findSome?_eq_none_iff_of fun _ _ => wrong_text_iff

theorem urlFields_findSome?_eq_some_iff : c.creative.urlFields.findSome? (urlFieldFault? c.kind) = some e ↔
    ∃ i, Wrong c (.address i) e ∧ ∀ j < i, ∀ other, ¬Wrong c (.address j) other := by
  rw [Creative.urlFields_eq_filter, First.findSome?_filter]
  exact First.findSome?_eq_some_iff_of fun _ _ => wrong_address_iff

theorem creativeFault?_eq_some_iff : creativeFault? c.creative = some e ↔
    (∃ i, Wrong c (.text i) e ∧ ∀ j < i, ∀ other, ¬Wrong c (.text j) other) ∨
      (∀ i other, ¬Wrong c (.text i) other) ∧
        ∃ i, Wrong c (.address i) e ∧ ∀ j < i, ∀ other, ¬Wrong c (.address j) other := by
  rw [creativeFault?, Option.or_eq_some_iff, ← textFields_findSome?_eq_some_iff, ← textFields_findSome?_eq_none_iff,
    ← urlFields_findSome?_eq_some_iff]
  exact Iff.rfl

/-- No search finds anything just when the creative is sound, which names all of its fields. -/
theorem creativeFault?_eq_none_iff {creative : Creative} : creativeFault? creative = none ↔ creative.Sound := by
  rw [creativeFault?, Option.or_eq_none_iff, List.findSome?_eq_none_iff, List.findSome?_eq_none_iff]
  cases creative <;>
    simp [Creative.textFields, Creative.urlFields, Creative.Sound, textFault?_eq_none_iff,
      urlFieldFault?_eq_none_iff] <;>
    tauto

/-! ### The whole candidate -/

theorem fault?_of_not_inked (hid : ¬Text.Inked c.adIdentifier) : c.fault? = some .emptyAdIdentifier := by
  rw [fault?, if_pos (Text.isBlank_eq_true_iff.mpr hid)]

theorem fault?_of_segment_not_inked (hid : Text.Inked c.adIdentifier) (hsegment : ¬Text.Inked c.segment) :
    c.fault? = some .emptySegment := by
  rw [fault?, if_neg (Text.isBlank_eq_true_iff.not_left.mpr hid), if_pos (Text.isBlank_eq_true_iff.mpr hsegment)]

theorem fault?_of_inked (hid : Text.Inked c.adIdentifier) (hsegment : Text.Inked c.segment) :
    c.fault? = creativeFault? c.creative := by
  rw [fault?, if_neg (Text.isBlank_eq_true_iff.not_left.mpr hid),
    if_neg (Text.isBlank_eq_true_iff.not_left.mpr hsegment)]

theorem fault?_eq_none_iff : c.fault? = none ↔ c.Valid := by
  constructor
  · intro h
    have hid := Text.isBlank_eq_false_iff.mp (adIdentifier_not_blank h)
    have hsegment := Text.isBlank_eq_false_iff.mp (segment_not_blank h)
    exact ⟨hid, hsegment, creativeFault?_eq_none_iff.mp (fault?_of_inked hid hsegment ▸ h)⟩
  · rintro ⟨hid, hsegment, hcreative⟩
    rw [fault?_of_inked hid hsegment]
    exact creativeFault?_eq_none_iff.mpr hcreative

theorem not_wrong_adIdentifier_iff : (∀ other, ¬Wrong c .adIdentifier other) ↔ Text.Inked c.adIdentifier := by
  constructor
  · exact fun h => by_contra fun hblank => h _ (.adIdentifier hblank)
  · intro hid other hwrong
    cases hwrong with
    | adIdentifier hblank => exact hblank hid

theorem not_wrong_segment_iff : (∀ other, ¬Wrong c .segment other) ↔ Text.Inked c.segment := by
  constructor
  · exact fun h => by_contra fun hblank => h _ (.segment hblank)
  · intro hsegment other hwrong
    cases hwrong with
    | segment hblank => exact hblank hsegment

theorem exists_firstWrong (h : c.fault? = some e) : ∃ p, FirstWrong c p e := by
  by_cases hid : Text.Inked c.adIdentifier
  · by_cases hsegment : Text.Inked c.segment
    · rw [fault?_of_inked hid hsegment] at h
      have hid := not_wrong_adIdentifier_iff.mpr hid
      have hsegment := not_wrong_segment_iff.mpr hsegment
      rcases creativeFault?_eq_some_iff.mp h with ⟨i, hwrong, hsmaller⟩ | ⟨htexts, i, hwrong, hsmaller⟩
      · refine ⟨.text i, hwrong, fun q hq => ?_⟩
        cases hq with
        | identifier_text => exact hid
        | segment_text => exact hsegment
        | text_text hj => exact hsmaller _ hj
      · refine ⟨.address i, hwrong, fun q hq => ?_⟩
        cases hq with
        | identifier_address => exact hid
        | segment_address => exact hsegment
        | text_address => exact htexts _
        | address_address hj => exact hsmaller _ hj
    · rw [fault?_of_segment_not_inked hid hsegment] at h
      cases h
      refine ⟨.segment, .segment hsegment, fun q hq => ?_⟩
      cases hq with
      | identifier_segment => exact not_wrong_adIdentifier_iff.mpr hid
  · rw [fault?_of_not_inked hid] at h
    cases h
    exact ⟨.adIdentifier, .adIdentifier hid, fun q hq => nomatch hq⟩

theorem FirstWrong.fault? {p : Place} (h : FirstWrong c p e) : c.fault? = some e := by
  obtain ⟨hwrong, hearlier⟩ := h
  cases p with
  | adIdentifier =>
    cases hwrong with
    | adIdentifier hid => exact fault?_of_not_inked hid
  | segment =>
    have hid := not_wrong_adIdentifier_iff.mp (hearlier _ .identifier_segment)
    cases hwrong with
    | segment hsegment => exact fault?_of_segment_not_inked hid hsegment
  | text i =>
    have hid := not_wrong_adIdentifier_iff.mp (hearlier _ .identifier_text)
    have hsegment := not_wrong_segment_iff.mp (hearlier _ .segment_text)
    rw [fault?_of_inked hid hsegment]
    exact creativeFault?_eq_some_iff.mpr (Or.inl ⟨i, hwrong, fun j hj => hearlier _ (.text_text hj)⟩)
  | address i =>
    have hid := not_wrong_adIdentifier_iff.mp (hearlier _ .identifier_address)
    have hsegment := not_wrong_segment_iff.mp (hearlier _ .segment_address)
    rw [fault?_of_inked hid hsegment]
    exact creativeFault?_eq_some_iff.mpr
      (Or.inr ⟨fun j => hearlier _ .text_address, i, hwrong, fun j hj => hearlier _ (.address_address hj)⟩)

/-- A candidate has no fault just when it is valid, and otherwise the fault is what is wrong at the first place where
    something is wrong. The segment of a candidate without a fault can always be had, with the text it was given. -/
theorem validation_blames_first_place (c : Candidate) :
    (c.fault? = none ↔ c.Valid) ∧
      (∀ e, c.fault? = some e ↔ ∃ p, FirstWrong c p e) ∧
      (c.fault? = none → ∃ s, c.checkedSegment = .ok s ∧ s.text = c.segment) :=
  ⟨fault?_eq_none_iff, fun _ => ⟨exists_firstWrong, fun ⟨_, h⟩ => h.fault?⟩,
    fun h => ⟨_, checkedSegment_of_not_blank (segment_not_blank h), rfl⟩⟩

/-- The address of the image is none, and the text that stands for the image is blank. -/
def spoiltCandidate : Candidate := ⟨"ad", "", "news", .newTabPageAd "company" "image" "\t" "https://[::1]/"⟩

/-- The blank text is blamed, though the address that is none stands before it. The segment of a candidate without a
    fault can be had. -/
theorem blank_text_blamed_before_address :
    Wrong spoiltCandidate (.address 1) (.invalidUrl "image_url" "image" "relative URL without a base") ∧
      spoiltCandidate.fault? = some (.missingField .newTabPageAd "alt") ∧
      Desk.plainCandidate.fault? = none ∧ ∃ s, Desk.plainCandidate.checkedSegment = .ok s ∧ s.text = "news" := by
  have hscheme : Url.scheme "image" = .error .noScheme := by decide +kernel
  have hspoilt : spoiltCandidate.fault? = some (.missingField .newTabPageAd "alt") := by
    refine ((validation_blames_first_place spoiltCandidate).2.1 _).mpr
      ⟨.text 2, .text rfl rfl (by simp [Text.Inked, Text.isBlankChar]), fun q hq => ?_⟩
    cases hq with
    | identifier_text => exact not_wrong_adIdentifier_iff.mpr ⟨'a', by simp [spoiltCandidate], by decide⟩
    | segment_text => exact not_wrong_segment_iff.mpr ⟨'n', by simp [spoiltCandidate], by decide⟩
    | @text_text j _ hj =>
      intro other hwrong
      cases hwrong with
      | text hfield hname h =>
        interval_cases j
        · cases hfield
          exact h ⟨'c', by simp, by decide⟩
        · cases hfield
          cases hname
  have hplain := (validation_blames_first_place Desk.plainCandidate).2.2 Desk.fault?_plain
  exact ⟨.badAddress rfl rfl ⟨'i', by simp, by decide⟩ (.unreadable hscheme), hspoilt, Desk.fault?_plain, hplain⟩

end Candidate
end AdAdmission
