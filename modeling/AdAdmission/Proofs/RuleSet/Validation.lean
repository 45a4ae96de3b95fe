import Mathlib
import AdAdmission.Proofs.List.First
import AdAdmission.RuleSet.Document
import AdAdmission.RuleSet.YamlDocument

/-! Validation of rule sets. A rule is wrong when its name is blank, when a rule before it has the same name, or
    when its window or gap is out of bounds. A rule set is valid just when no rule is wrong, and otherwise
    the rule at the smallest position is blamed, for the first thing that is wrong with it. A rule set
    that was read from a document is valid, so its chain can always be had. -/

namespace AdAdmission

theorem Rule.duration?_eq_none_iff {r : Rule} : r.duration? = none ↔ r = .conversionExclusion := by
  cases r <;> simp [duration?]

namespace RuleSet

/-! ### Valid rules -/

/-- A window or gap of at least one second and at most the longest. -/
def InBounds (seconds : UInt64) : Prop := 1 ≤ seconds.toNat ∧ seconds.toNat ≤ maxWindow.toNat

instance (seconds : UInt64) : Decidable (InBounds seconds) := by unfold InBounds; infer_instance

/-- Every name has a character besides white space, no two names are the same, and every rule but the exclusion of
    conversions has a window or gap within bounds. -/
structure Valid (rules : List NamedRule) : Prop where
  named : ∀ r ∈ rules, Text.Inked r.name
  distinct : (rules.map (·.name)).Nodup
  bounded : ∀ r ∈ rules, r.rule = .conversionExclusion ∨ ∃ seconds, r.rule.duration? = some seconds ∧ InBounds seconds

/-- What is wrong with a rule that comes after these. The name is looked at before the names of the others, and the
    window or gap last. -/
inductive Wrong (before : List NamedRule) (r : NamedRule) : RuleSetError → Prop where
  | blank (hblank : ¬Text.Inked r.name) : Wrong before r (.emptyRuleName before.length)
  | repeated (hname : Text.Inked r.name) (hrepeated : ∃ q ∈ before, q.name = r.name) :
    Wrong before r (.duplicateRuleName r.name)
  | unbounded (hname : Text.Inked r.name) (hnew : ∀ q ∈ before, q.name ≠ r.name)
    {seconds : UInt64} (hduration : r.rule.duration? = some seconds) (hbounds : ¬InBounds seconds) :
    Wrong before r (.invalidWindow r.name seconds)

/-- The rule at this position is wrong after those before it, and at no smaller position is there one that is. -/
structure FirstWrong (rules : List NamedRule) (i : ℕ) (e : RuleSetError) : Prop where
  wrong : ∃ r, rules[i]? = some r ∧ Wrong (rules.take i) r e
  smallest : ∀ j < i, ∀ r, rules[j]? = some r → ∀ other, ¬Wrong (rules.take j) r other

theorem inBounds_iff {seconds : UInt64} : InBounds seconds ↔ 0 < seconds ∧ seconds ≤ maxWindow := Iff.rfl

theorem durationFault?_eq_some_iff {r : NamedRule} {e : RuleSetError} : durationFault? r = some e ↔
    ∃ seconds, r.rule.duration? = some seconds ∧ ¬InBounds seconds ∧ e = .invalidWindow r.name seconds := by
  rw [durationFault?]
  cases hd : r.rule.duration? with
  | none => simp
  | some seconds =>
    dsimp only
    by_cases hb : InBounds seconds
    · rw [if_pos (inBounds_iff.mp hb)]
      simp [hb]
    · rw [if_neg (inBounds_iff.not.mp hb)]
      simp [hb, eq_comm]

/-! ### One rule after others -/

/-- The first fault of rules that come after others. -/
def faultAfter (before rest : List NamedRule) : Option RuleSetError :=
  faultFrom before.length (before.map (·.name)).reverse rest

variable {before rest : List NamedRule} {r : NamedRule} {e : RuleSetError}

theorem seen_iff : (before.map (·.name)).reverse.contains r.name = true ↔ ∃ q ∈ before, q.name = r.name := by
  simp

theorem faultAfter_of_wrong (h : Wrong before r e) : faultAfter before (r :: rest) = some e := by
  rw [faultAfter, faultFrom]
  cases h with
  | blank hblank => rw [if_pos (Text.isBlank_eq_true_iff.mpr hblank)]
  | repeated hname hrepeated =>
    rw [Text.isBlank_eq_false_iff.mpr hname, if_neg Bool.false_ne_true, if_pos (seen_iff.mpr hrepeated)]
  | unbounded hname hnew hduration hbounds =>
    have hunseen := mt seen_iff.mp (not_exists.mpr fun q hq => hnew q hq.1 hq.2)
    rw [Text.isBlank_eq_false_iff.mpr hname, if_neg Bool.false_ne_true, if_neg hunseen,
      durationFault?_eq_some_iff.mpr ⟨_, hduration, hbounds, rfl⟩]

theorem faultAfter_of_not_wrong (h : ∀ other, ¬Wrong before r other) :
    faultAfter before (r :: rest) = faultAfter (before ++ [r]) rest := by
  have hname : Text.Inked r.name := by_contra fun hblank => h _ (.blank hblank)
  have hnew : ∀ q ∈ before, q.name ≠ r.name := fun q hq hqr => h _ (.repeated hname ⟨q, hq, hqr⟩)
  have hunseen := mt seen_iff.mp (not_exists.mpr fun q hq => hnew q hq.1 hq.2)
  have hduration : durationFault? r = none := by
    refine Option.eq_none_iff_forall_ne_some.mpr fun e he => ?_
    obtain ⟨seconds, hduration, hbounds, -⟩ := durationFault?_eq_some_iff.mp he
    exact h _ (.unbounded hname hnew hduration hbounds)
  rw [faultAfter, faultFrom, Text.isBlank_eq_false_iff.mpr hname, if_neg Bool.false_ne_true, if_neg hunseen,
    hduration, faultAfter]
  simp

theorem Wrong.unique {e' : RuleSetError} (h : Wrong before r e) (h' : Wrong before r e') : e = e' := by
  have hfault : faultAfter before [r] = some e := faultAfter_of_wrong h
  rw [faultAfter_of_wrong h'] at hfault
  exact (Option.some.inj hfault).symm

theorem not_wrong_iff : (∀ other, ¬Wrong before r other) ↔
    Text.Inked r.name ∧ (∀ q ∈ before, q.name ≠ r.name) ∧
      (r.rule = .conversionExclusion ∨ ∃ seconds, r.rule.duration? = some seconds ∧ InBounds seconds) := by
  constructor
  · intro h
    have hname : Text.Inked r.name := by_contra fun hblank => h _ (.blank hblank)
    have hnew : ∀ q ∈ before, q.name ≠ r.name := fun q hq hqr => h _ (.repeated hname ⟨q, hq, hqr⟩)
    refine ⟨hname, hnew, ?_⟩
    cases hd : r.rule.duration? with
    | none => exact Or.inl (Rule.duration?_eq_none_iff.mp hd)
    | some seconds => exact Or.inr ⟨seconds, rfl, by_contra fun hbounds => h _ (.unbounded hname hnew hd hbounds)⟩
  · rintro ⟨hname, hnew, hbounded⟩ other hwrong
    cases hwrong with
    | blank hblank => exact hblank hname
    | repeated _ hrepeated =>
      obtain ⟨q, hq, hqr⟩ := hrepeated
      exact hnew q hq hqr
    | unbounded _ _ hduration hbounds =>
      rcases hbounded with hrule | ⟨seconds, hseconds, hin⟩
      · simp [Rule.duration?_eq_none_iff.mpr hrule] at hduration
      · rw [hseconds] at hduration
        cases hduration
        exact hbounds hin

/-- One more rule leaves a valid rule set valid just when it is not wrong after the others. -/
theorem valid_concat_iff : Valid (before ++ [r]) ↔ Valid before ∧ ∀ other, ¬Wrong before r other := by
  rw [not_wrong_iff]
  constructor
  · rintro ⟨hnamed, hdistinct, hbounded⟩
    rw [List.map_append, List.nodup_append] at hdistinct
    obtain ⟨hbefore, -, hnew⟩ := hdistinct
    refine ⟨⟨fun q hq => hnamed q (by simp [hq]), hbefore, fun q hq => hbounded q (by simp [hq])⟩,
      hnamed r (by simp), fun q hq => ?_, hbounded r (by simp)⟩
    exact hnew q.name (List.mem_map_of_mem hq) r.name (by simp)
  · rintro ⟨⟨hnamed, hdistinct, hbounded⟩, hname, hnew, hbound⟩
    refine ⟨fun q hq => ?_, ?_, fun q hq => ?_⟩
    · rcases List.mem_append.mp hq with hq | hq
      · exact hnamed q hq
      · exact List.mem_singleton.mp hq ▸ hname
    · rw [List.map_append, List.nodup_append]
      refine ⟨hdistinct, List.nodup_singleton _, fun a ha b hb => ?_⟩
      obtain ⟨q, hq, rfl⟩ := List.mem_map.mp ha
      exact List.mem_singleton.mp hb ▸ hnew q hq
    · rcases List.mem_append.mp hq with hq | hq
      · exact hbounded q hq
      · exact List.mem_singleton.mp hq ▸ hbound

/-! ### All rules -/

theorem valid_nil : Valid [] := ⟨by simp, List.nodup_nil, by simp⟩

theorem Valid.of_append (h : Valid (before ++ rest)) : Valid before where
  named := fun r hr => h.named r (List.mem_append_left rest hr)
  distinct := h.distinct.sublist ((List.sublist_append_left before rest).map _)
  bounded := fun r hr => h.bounded r (List.mem_append_left rest hr)

theorem faultAfter_eq_none_iff (h : Valid before) : faultAfter before rest = none ↔ Valid (before ++ rest) := by
  induction rest generalizing before with
  | nil =>
    rw [List.append_nil]
    exact iff_of_true rfl h
  | cons r rest ih =>
    rw [show before ++ r :: rest = before ++ [r] ++ rest by simp]
    by_cases hwrong : ∃ e, Wrong before r e
    · obtain ⟨e, he⟩ := hwrong
      rw [faultAfter_of_wrong he]
      exact iff_of_false (by simp) fun hvalid => (valid_concat_iff.mp hvalid.of_append).2 e he
    · have hwrong := not_exists.mp hwrong
      rw [faultAfter_of_not_wrong hwrong, ih (valid_concat_iff.mpr ⟨h, hwrong⟩)]

theorem faultAfter_eq_some_iff : faultAfter before rest = some e ↔
    ∃ i, (∃ r, rest[i]? = some r ∧ Wrong (before ++ rest.take i) r e) ∧
      ∀ j < i, ∀ r, rest[j]? = some r → ∀ other, ¬Wrong (before ++ rest.take j) r other := by
  induction rest generalizing before with
  | nil => simp [faultAfter, faultFrom]
  | cons r rest ih =>
    rw [First.exists_first_iff]
    have happend : ∀ k, before ++ r :: rest.take k = before ++ [r] ++ rest.take k := by simp
    simp only [List.getElem?_cons_zero, List.getElem?_cons_succ, List.take_zero, List.take_succ_cons, List.append_nil,
      Option.some.injEq, exists_eq_left', forall_eq', happend, ← ih]
    by_cases hwrong : ∃ e, Wrong before r e
    · obtain ⟨e', he'⟩ := hwrong
      rw [faultAfter_of_wrong he', Option.some.injEq]
      constructor
      · rintro rfl
        exact Or.inl he'
      · rintro (he | ⟨hnone, -⟩)
        · exact he'.unique he
        · exact absurd he' (hnone e')
    · have hwrong := not_exists.mp hwrong
      rw [faultAfter_of_not_wrong hwrong]
      simp [hwrong]

theorem fault?_eq_none_iff {s : RuleSet} : s.fault? = none ↔ Valid s.rules :=
  faultAfter_eq_none_iff valid_nil

theorem fault?_eq_some_iff {s : RuleSet} : s.fault? = some e ↔ ∃ i, FirstWrong s.rules i e := by
  rw [show s.fault? = faultAfter [] s.rules from rfl, faultAfter_eq_some_iff]
  simp only [List.nil_append]
  constructor
  · rintro ⟨i, hwrong, hsmallest⟩
    exact ⟨i, hwrong, hsmallest⟩
  · rintro ⟨i, hwrong, hsmallest⟩
    exact ⟨i, hwrong, hsmallest⟩

/-! ### Chains and documents -/

theorem chain_eq_error_iff {s : RuleSet} : s.chain = .error e ↔ s.fault? = some e := by
  rw [chain, validated]
  cases s.fault? <;> simp [Except.map]

theorem chain_eq_ok_iff {s : RuleSet} {chain : Chain} : s.chain = .ok chain ↔ s.fault? = none ∧ chain = s.rules := by
  rw [RuleSet.chain, validated]
  cases s.fault? <;> simp [Except.map, eq_comm]

theorem validated_eq_ok_iff {s t : RuleSet} : s.validated = .ok t ↔ s.fault? = none ∧ t = s := by
  rw [validated]
  cases s.fault? <;> simp [eq_comm]

theorem fault?_of_ofJsonText {text : String} {s : RuleSet} (h : ofJsonText text = .ok s) : s.fault? = none := by
  rw [ofJsonText] at h
  split at h
  · obtain ⟨hfault, rfl⟩ := validated_eq_ok_iff.mp h
    exact hfault
  · cases h

theorem fault?_of_ofYamlText {text : String} {s : RuleSet} (h : ofYamlText text = .ok s) : s.fault? = none := by
  rw [ofYamlText] at h
  split at h
  · obtain ⟨hfault, rfl⟩ := validated_eq_ok_iff.mp h
    exact hfault
  · cases h

/-- A rule set has no fault just when it is valid, and otherwise the fault of the wrong rule at the smallest position.
    Its chain fails with that fault, or has just its rules in their order. The chain of a rule set that was read from
    a document never fails. -/
theorem validation_blames_first_wrong (s : RuleSet) :
    (s.fault? = none ↔ Valid s.rules) ∧
      (∀ e, s.fault? = some e ↔ ∃ i, FirstWrong s.rules i e) ∧
      (∀ e, s.chain = .error e ↔ s.fault? = some e) ∧
      (∀ chain, s.chain = .ok chain ↔ s.fault? = none ∧ chain = s.rules) ∧
      ∀ text, ofJsonText text = .ok s ∨ ofYamlText text = .ok s → s.chain = .ok s.rules := by
  refine ⟨fault?_eq_none_iff, fun e => fault?_eq_some_iff, fun e => chain_eq_error_iff, fun chain => chain_eq_ok_iff,
    fun text hread => chain_eq_ok_iff.mpr ⟨?_, rfl⟩⟩
  rcases hread with hjson | hyaml
  · exact fault?_of_ofJsonText hjson
  · exact fault?_of_ofYamlText hyaml

/-- The third rule repeats the name of the first and has no window at all, and the last one has a blank name. -/
def muddledRules : RuleSet where
  rules := [⟨"hour", .perHour .notification ⟨2, Nat.two_pos⟩⟩, ⟨"exclusion", .conversionExclusion⟩,
    ⟨"hour", .perAdCap 0 ⟨1, Nat.one_pos⟩ .viewed⟩, ⟨" ", .conversionExclusion⟩]

/-- Two rules that are all right. -/
def tidyRules : RuleSet where
  rules := [⟨"hour", .perWindowCap 3600 ⟨2, Nat.two_pos⟩ none .viewed⟩, ⟨"exclusion", .conversionExclusion⟩]

/-- The same rules in a document. -/
def tidyText : String :=
  "rules:\n- \x7bname: hour, kind: per_window_cap, window_secs: 3600, max_count: 2\x7d\n" ++
    "- \x7bname: exclusion, kind: conversion_exclusion\x7d"

/-- Of all that is wrong the name of the third rule is blamed. The chain of rules from a document can be had. -/
theorem muddled_rules_blamed_at_third :
    muddledRules.fault? = some (.duplicateRuleName "hour") ∧
      muddledRules.chain = .error (.duplicateRuleName "hour") ∧
      ofYamlText tidyText = .ok tidyRules ∧ tidyRules.chain = .ok tidyRules.rules := by
  have hmuddled := validation_blames_first_wrong muddledRules
  have hhour : Text.Inked "hour" := ⟨'h', by simp, by decide⟩
  have hfault : muddledRules.fault? = some (.duplicateRuleName "hour") := by
    refine (hmuddled.2.1 _).mpr ⟨2, ⟨_, rfl, .repeated hhour ⟨_, List.mem_cons_self, rfl⟩⟩, fun j hj r hr => ?_⟩
    interval_cases j
    · obtain rfl := Option.some.inj hr
      exact not_wrong_iff.mpr ⟨hhour, by simp, Or.inr ⟨3600, rfl, by decide⟩⟩
    · obtain rfl := Option.some.inj hr
      exact not_wrong_iff.mpr ⟨⟨'e', by simp, by decide⟩, by simp [muddledRules], Or.inl rfl⟩
  have hread : ofYamlText tidyText = .ok tidyRules := by decide +kernel
  have htidy := (validation_blames_first_wrong tidyRules).2.2.2.2 _ (Or.inr hread)
  exact ⟨hfault, (hmuddled.2.2.1 _).mpr hfault, hread, htidy⟩

end RuleSet
end AdAdmission
