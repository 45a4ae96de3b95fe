import Mathlib
import AdAdmission.Proofs.Json.RoundTrip
import AdAdmission.Proofs.Value.Fields
import AdAdmission.Rule.Record

/-! Rule records. A named rule is read back from its JSON form, and from every other object that tells the same:
    its fields may stand in any order, texts may be put beside them under names of their own, and what is taken for
    granted anyway may be left out. -/

namespace AdAdmission

/-! ### Objects that tell a rule -/

namespace NamedRule

/-- The members of the JSON form of a named rule. -/
def members (r : NamedRule) : Fields Json := (nameField, .ofText r.name) :: r.rule.members

/-- A field with what is taken in its place when it is left out: no scope, or the view as what is counted. -/
def IsDefault (m : String × Json) : Prop :=
  m = ("ad_kind", .null) ∨ m = ("confirmation_kind", .ofText ConfirmationKind.viewed.name)

/-- Of the rule's own members none is left out but defaults. The others have names that are not among those of its own,
    and hold texts. The order is any. -/
def ToldBy (r : NamedRule) (members : Fields Json) : Prop :=
  ∃ kept extra, kept.Sublist r.members ∧ (∀ m ∈ r.members, m ∈ kept ∨ IsDefault m) ∧
    (∀ m ∈ extra, m.1 ∉ r.members.map (·.1) ∧ ∃ text, m.2 = .ofText text) ∧ members.Perm (kept ++ extra)

theorem toldBy_members (r : NamedRule) : r.ToldBy r.members :=
  ⟨r.members, [], List.Sublist.refl _, fun _ hm => Or.inl hm, by simp, by simp⟩

theorem ToldBy.perm {r : NamedRule} {members other : Fields Json} (h : r.ToldBy members) (hperm : other.Perm members) :
    r.ToldBy other := by
  obtain ⟨kept, extra, hkept, hleft, hextra, hmembers⟩ := h
  exact ⟨kept, extra, hkept, hleft, hextra, hperm.trans hmembers⟩

end NamedRule

/-! ### Plain values -/

theorem Cap.count_lt (cap : Cap) : cap.count.toNat < 18446744073709551616 := by
  have := cap.count.toNat_lt
  omega

theorem Rule.seconds_lt (seconds : UInt64) : seconds.toNat < 18446744073709551616 := by
  have := seconds.toNat_lt
  omega

namespace Json
variable {j : Json} {n room : ℕ}

/-- Nothing, a text, or a number that fits a word. -/
inductive Plain : Json → Prop where
  | null : Plain .null
  | text (s : String) : Plain (.ofText s)
  | word {n : ℕ} (h : n < 18446744073709551616) : Plain (.ofNat n)

theorem Plain.written (h : j.Plain) : j.Written := by
  cases h with
  | null => trivial
  | text => trivial
  | word => exact written_ofNat _

theorem dynamic?_ofNat (h : n < 18446744073709551616) : (ofNat n).dynamic? room = some (.int n) := by
  rw [ofNat, dynamic?, Value.ofDecimal?]
  simp [Decimal.ofNat, Decimal.isInteger, h]

/-- What a value is read as, where it can be read. -/
def value (j : Json) : Value := (j.dynamic? NamedRule.room).getD .null

theorem Plain.dynamic? (h : j.Plain) : j.dynamic? NamedRule.room = some j.value := by
  cases h with
  | null => rfl
  | text s => rw [value, dynamic?_ofText, Option.getD_some]
  | word h => rw [value, dynamic?_ofNat h, Option.getD_some]

theorem plain_seconds (seconds : UInt64) : Plain (.ofNat seconds.toNat) := .word (Rule.seconds_lt seconds)

theorem plain_cap (cap : Cap) : Plain (.ofNat cap.count.toNat) := .word cap.count_lt

theorem plain_scopeJson (scope : Option AdKind) : Plain (Rule.contents.scopeJson scope) := by
  cases scope with
  | none => exact .null
  | some kind => exact .text kind.name

theorem mapM_dynamic? {members : Fields Json} (h : ∀ m ∈ members, m.2.Plain) :
    (members.mapM fun (k, j) => (j.dynamic? NamedRule.room).map (k, ·)) =
      some (members.map fun m => (m.1, m.2.value)) := by
  have hread : ∀ m ∈ members, (m.2.dynamic? NamedRule.room).map (m.1, ·) = some (m.1, m.2.value) := fun m hm => by
    rw [(h m hm).dynamic?, Option.map_some]
  simpa using mapM_map_eq_some (g := id) hread

end Json

/-! ### Reading the fields of a rule -/

/-- What a member is read as: its value, or nothing where a default was left out. -/
inductive NamedRule.Reading : String × Json → Option Value → Prop where
  | given {m : String × Json} {v : Value} (h : m.2.dynamic? NamedRule.room = some v) : Reading m (some v)
  | missing {m : String × Json} (h : IsDefault m) : Reading m none

namespace NamedRule.Reading
variable {name : String} {v : Option Value}

theorem not_isDefault_ofNat {n : ℕ} : ¬IsDefault (name, .ofNat n) := by
  simp [IsDefault, Json.ofNat, Json.ofText]

theorem word {seconds : UInt64} (h : Reading (name, .ofNat seconds.toNat) v) : v.bind Value.word? = some seconds := by
  have hlt := Rule.seconds_lt seconds
  cases h with
  | given h =>
    rw [Json.dynamic?_ofNat hlt] at h
    cases h
    rw [Option.bind_some, Value.word?, if_pos (by omega), Int.toNat_natCast, UInt64.ofNat_toNat]
  | missing h => exact absurd h not_isDefault_ofNat

theorem cap {cap : Cap} (h : Reading (name, .ofNat cap.count.toNat) v) : v.bind Value.cap? = some cap := by
  cases h with
  | given h =>
    rw [Json.dynamic?_ofNat cap.count_lt] at h
    cases h
    simp [Value.cap?, Cap.ofNat?, cap.pos, cap.count.toNat_lt]
  | missing h => exact absurd h not_isDefault_ofNat

theorem scope {scope : Option AdKind} (h : Reading ("ad_kind", Rule.contents.scopeJson scope) v) :
    Value.scope? v = some scope := by
  cases scope with
  | none =>
    cases h with
    | given h =>
      cases h
      rfl
    | missing => rfl
  | some kind =>
    cases h with
    | given h =>
      rw [Rule.contents.scopeJson, Json.dynamic?_ofText] at h
      cases h
      simp [Value.scope?, Value.adKind?, Value.choice?, AdKind.ofName?_name]
    | missing h => simp [IsDefault, Rule.contents.scopeJson, Json.ofText] at h

theorem counted {counted : ConfirmationKind} (h : Reading ("confirmation_kind", .ofText counted.name) v) :
    Value.counted? v = some counted := by
  cases h with
  | given h =>
    rw [Json.dynamic?_ofText] at h
    cases h
    simp [Value.counted?, Value.confirmationKind?, Value.choice?, ConfirmationKind.ofName?_name]
  | missing h =>
    have hname : counted.name = ConfirmationKind.viewed.name := by simpa [IsDefault, Json.ofText] using h
    have hsome : some counted = some .viewed := by
      rw [← ConfirmationKind.ofName?_name, hname, ConfirmationKind.ofName?_name]
    exact hsome.symm

theorem tag {s : String} (h : Reading (Rule.tagName, .ofText s) v) : v = some (.text s) := by
  cases h with
  | given h =>
    rw [Json.dynamic?_ofText] at h
    cases h
    rfl
  | missing h => simp [IsDefault, Rule.tagName] at h

end NamedRule.Reading

/-- A rule is made from what its fields are read as. -/
theorem Rule.ofValues?_of_reading {rule : Rule} {values : List (Option Value)}
    (h : List.Forall₂ NamedRule.Reading (rule.kind.fieldNames.zip rule.contents) values) :
    ofValues? rule.kind values = some rule := by
  cases rule with
  | perWindowCap window cap scope counted =>
    obtain _ | ⟨hwindow, _ | ⟨hcap, _ | ⟨hscope, _ | ⟨hcounted, _ | _⟩⟩⟩⟩ := h
    simp [kind, ofValues?, hwindow.word, hcap.cap, hscope.scope, hcounted.counted]
  | minimumInterval gap scope counted =>
    obtain _ | ⟨hgap, _ | ⟨hscope, _ | ⟨hcounted, _ | _⟩⟩⟩ := h
    simp [kind, ofValues?, hgap.word, hscope.scope, hcounted.counted]
  | perAdCap window cap counted =>
    obtain _ | ⟨hwindow, _ | ⟨hcap, _ | ⟨hcounted, _ | _⟩⟩⟩ := h
    simp [kind, ofValues?, hwindow.word, hcap.cap, hcounted.counted]
  | perCreativeSetCap window cap counted =>
    obtain _ | ⟨hwindow, _ | ⟨hcap, _ | ⟨hcounted, _ | _⟩⟩⟩ := h
    simp [kind, ofValues?, hwindow.word, hcap.cap, hcounted.counted]
  | conversionExclusion =>
    obtain _ | _ := h
    rfl

theorem Rule.length_contents (rule : Rule) : rule.contents.length = rule.kind.fieldNames.length := by
  cases rule <;> rfl

/-! ### Reading a named rule -/

namespace NamedRule
variable {r : NamedRule} {members : Fields Json} {m : String × Json}

theorem nodup_members (r : NamedRule) : (r.members.map (·.1)).Nodup := by
  obtain ⟨name, rule⟩ := r
  cases rule <;> simp [NamedRule.members, Rule.members, Rule.kind, RuleKind.fieldNames, Rule.contents, nameField,
    Rule.tagName]

theorem plain_of_mem (hm : m ∈ r.members) : m.2.Plain := by
  obtain ⟨name, rule⟩ := r
  revert m
  cases rule <;> simp [NamedRule.members, Rule.members, Rule.kind, RuleKind.fieldNames, Rule.contents, Json.Plain.text,
    Json.plain_seconds, Json.plain_cap, Json.plain_scopeJson]

theorem plain_of_toldBy (h : r.ToldBy members) (hm : m ∈ members) : m.2.Plain := by
  obtain ⟨kept, extra, hkept, -, hextra, hperm⟩ := h
  rcases List.mem_append.mp (hperm.mem_iff.mp hm) with hm | hm
  · exact plain_of_mem (hkept.subset hm)
  · obtain ⟨-, text, htext⟩ := hextra m hm
    exact htext ▸ .text text

/-- A member of the rule's own is found under its name, unless it was left out as a default. -/
theorem get?_of_toldBy (h : r.ToldBy members) (hm : m ∈ r.members) :
    members.get? m.1 = some (some m.2) ∨ members.get? m.1 = some none ∧ IsDefault m := by
  obtain ⟨kept, extra, hkept, hleft, hextra, hperm⟩ := h
  rw [Fields.get?_perm hperm,
    Fields.get?_append_of_fresh (fun x hx => (hextra x hx).1) (List.mem_map_of_mem hm)]
  by_cases hk : m ∈ kept
  · exact Or.inl (Fields.get?_of_mem ((nodup_members r).sublist (hkept.map _)) hk)
  · refine Or.inr ⟨Fields.get?_of_not_mem fun hmem => hk ?_, (hleft m hm).resolve_left hk⟩
    -- The names are distinct, so a member that was kept under this name is this one.
    obtain ⟨x, hx, hname⟩ := List.mem_map.mp hmem
    exact List.inj_on_of_nodup_map (nodup_members r) (hkept.subset hx) hm hname ▸ hx

/-- The members besides the name, each read as a value. -/
def values (members : Fields Json) : Fields Value :=
  (members.filter (·.1 != nameField)).map fun m => (m.1, m.2.value)

theorem reading_of_toldBy (h : r.ToldBy members) (hm : m ∈ r.rule.members) :
    ∃ v, (values members).get? m.1 = some v ∧ Reading m v := by
  have hne : m.1 ≠ nameField := fun hname =>
    (List.nodup_cons.mp (nodup_members r)).1 (List.mem_map.mpr ⟨m, hm, hname⟩)
  have hmem : m ∈ r.members := List.mem_cons_of_mem _ hm
  rw [values, Fields.get?_map, Fields.get?_filter_ne hne]
  rcases get?_of_toldBy h hmem with hget | ⟨hget, hdefault⟩
  · exact ⟨some m.2.value, by rw [hget]; rfl, .given (plain_of_mem hmem).dynamic?⟩
  · exact ⟨none, by rw [hget]; rfl, .missing hdefault⟩

theorem ruleOf?_of_toldBy (h : r.ToldBy members) : ruleOf? (values members) = some r.rule := by
  obtain ⟨tag, htag, hreading⟩ := reading_of_toldBy h (m := (Rule.tagName, .ofText r.rule.kind.name)) List.mem_cons_self
  obtain ⟨fields, hfields, hall⟩ := Fields.select?_forall₂ (R := Reading)
    fun m (hm : m ∈ r.rule.kind.fieldNames.zip r.rule.contents) => reading_of_toldBy h (List.mem_cons_of_mem _ hm)
  rw [List.map_fst_zip (Rule.length_contents r.rule).ge] at hfields
  simp [ruleOf?, htag, hreading.tag, Value.member?, RuleKind.ofName?_name, Rule.ofFields?, hfields,
    Rule.ofValues?_of_reading hall]

/-- A named rule is read back from every object that tells it. -/
theorem ofJson?_of_toldBy (h : r.ToldBy members) : ofJson? (.ofMembers members) = some r := by
  have hname : members.get? nameField = some (some (.ofText r.name)) := by
    rcases get?_of_toldBy h (m := (nameField, .ofText r.name)) List.mem_cons_self with hget | ⟨-, hdefault⟩
    · exact hget
    · simp [IsDefault, nameField] at hdefault
  have hvalues := Json.mapM_dynamic? fun m hm => plain_of_toldBy h (List.mem_of_mem_filter (p := (·.1 != nameField)) hm)
  have hrule := ruleOf?_of_toldBy h
  rw [values] at hrule
  rw [Json.ofMembers, ofJson?, Json.members?_ofMembers]
  simp [hname, hvalues, hrule, Json.ofText, Json.text?]

theorem written_of_toldBy (h : r.ToldBy members) : (Json.ofMembers members).Written :=
  Json.written_ofMembers fun _ hm => (plain_of_toldBy h hm).written

end NamedRule
end AdAdmission
