import Mathlib
import AdAdmission.Value

/-! Fields by name. What a field is read as depends on the fields of its name only: not on their order among the
    others, and not on what is put beside them or left out. -/

namespace AdAdmission

/-- The text that a JSON value holds, as a value. -/
def Json.textValue (j : Json) : Value := .text (j.text?.getD "")

theorem Json.dynamic?_ofText {room : ℕ} (text : String) : (ofText text).dynamic? room = some (.text text) := by
  rw [ofText, dynamic?]

theorem Json.fields?_ofMembers (members : Fields Json) (names : List String) :
    (ofMembers members).fields? names = members.select? names := by
  rw [ofMembers, Json.fields?, members?_ofMembers]
  rfl

/-- Where each item is read as what it stands for, the list of them is read whole. -/
theorem mapM_map_eq_some {α β γ : Type} {f : β → Option γ} {g : α → β} {k : α → γ} {l : List α}
    (h : ∀ x ∈ l, f (g x) = some (k x)) : (l.map g).mapM f = some (l.map k) := by
  induction l with
  | nil => rfl
  | cons x rest ih =>
    obtain ⟨hx, hrest⟩ := List.forall_mem_cons.mp h
    simp [List.mapM_cons, hx, ih hrest]

namespace Fields
variable {α β : Type} {fields other : Fields α} {name : String} {v : α}

/-! ### One field -/

theorem filter_eq_nil_of_not_mem (h : name ∉ fields.map (·.1)) : fields.filter (·.1 == name) = [] := by
  rw [List.filter_eq_nil_iff]
  intro field hfield hname
  exact h (List.mem_map.mpr ⟨field, hfield, beq_iff_eq.mp hname⟩)

theorem get?_of_not_mem (h : name ∉ fields.map (·.1)) : fields.get? name = some none := by
  rw [get?, filter_eq_nil_of_not_mem h]

/-- Where no name is given twice, a field has the value that is given with its name. -/
theorem get?_of_mem (hn : (fields.map (·.1)).Nodup) (h : (name, v) ∈ fields) : fields.get? name = some (some v) := by
  have hf : fields.filter (·.1 == name) = [(name, v)] := by
    induction fields with
    | nil => cases h
    | cons field rest ih =>
      obtain ⟨hfresh, hn⟩ := List.nodup_cons.mp hn
      rcases List.mem_cons.mp h with rfl | h
      · simp [filter_eq_nil_of_not_mem hfresh]
      · have hne : field.1 ≠ name := fun hk => hfresh (List.mem_map.mpr ⟨(name, v), h, hk.symm⟩)
        rw [List.filter_cons_of_neg (by simpa using hne), ih hn h]
  rw [get?, hf]

theorem get?_perm (h : fields.Perm other) : fields.get? name = other.get? name := by
  have hf := h.filter (·.1 == name)
  rw [get?, get?]
  generalize fields.filter (·.1 == name) = l at hf ⊢
  generalize other.filter (·.1 == name) = l' at hf ⊢
  match l, l', hf with
  | [], l', hf => rw [hf.nil_eq]
  | [field], l', hf => rw [hf.singleton_eq]
  | _ :: _ :: _, [], hf => cases hf.eq_nil
  | _ :: _ :: _, [_], hf => cases hf.eq_singleton
  | _ :: _ :: _, _ :: _ :: _, _ => rfl

theorem get?_append_of_not_mem (h : name ∉ other.map (·.1)) :
    Fields.get? (fields ++ other) name = fields.get? name := by
  rw [get?, get?, List.filter_append, filter_eq_nil_of_not_mem h, List.append_nil]

/-- A field is read past others whose names are new. -/
theorem get?_append_of_fresh {names : List String} (hfresh : ∀ m ∈ other, m.1 ∉ names) (hname : name ∈ names) :
    Fields.get? (fields ++ other) name = fields.get? name := by
  refine get?_append_of_not_mem fun hmem => ?_
  obtain ⟨m, hm, rfl⟩ := List.mem_map.mp hmem
  exact hfresh m hm hname

theorem get?_filter_ne {left : String} (h : name ≠ left) :
    Fields.get? (fields.filter (·.1 != left)) name = fields.get? name := by
  have hf : (fields.filter (·.1 != left)).filter (·.1 == name) = fields.filter (·.1 == name) := by
    rw [List.filter_filter]
    refine List.filter_congr fun field _ => ?_
    by_cases hname : field.1 = name
    · simp [hname, h]
    · simp [hname]
  rw [get?, get?, hf]

theorem get?_map (f : α → β) :
    Fields.get? (fields.map fun m => (m.1, f m.2)) name = (fields.get? name).map (Option.map f) := by
  have hf : (fields.map fun m => (m.1, f m.2)).filter (·.1 == name) =
      (fields.filter (·.1 == name)).map fun m => (m.1, f m.2) := List.filter_map
  rw [get?, get?, hf]
  generalize fields.filter (·.1 == name) = l
  match l with
  | [] => rfl
  | [_] => rfl
  | _ :: _ :: _ => rfl

/-! ### Several fields -/

/-- Where each of some members is read as something related to it, they are read so together. -/
theorem select?_forall₂ {members : Fields β} {R : String × β → Option α → Prop}
    (h : ∀ m ∈ members, ∃ v, fields.get? m.1 = some v ∧ R m v) :
    ∃ values, fields.select? (members.map (·.1)) = some values ∧ List.Forall₂ R members values := by
  induction members with
  | nil => exact ⟨[], rfl, .nil⟩
  | cons m rest ih =>
    obtain ⟨⟨v, hv, hr⟩, hrest⟩ := List.forall_mem_cons.mp h
    obtain ⟨values, hvalues, hall⟩ := ih hrest
    refine ⟨v :: values, ?_, .cons hr hall⟩
    rw [select?] at hvalues ⊢
    simp [List.mapM_cons, hv, hvalues]

theorem select?_map (f : α → β) (names : List String) :
    Fields.select? (fields.map fun m => (m.1, f m.2)) names = (fields.select? names).map (·.map (Option.map f)) := by
  induction names with
  | nil => rfl
  | cons name rest ih =>
    rw [select?, select?] at ih ⊢
    rw [List.mapM_cons, List.mapM_cons, ih, get?_map]
    cases fields.get? name with
    | none => rfl
    | some v => cases hrest : rest.mapM fields.get? <;> simp

theorem select?_of_get? {members : Fields α} (h : ∀ m ∈ members, fields.get? m.1 = some (some m.2)) :
    fields.select? (members.map (·.1)) = some (members.map fun m => some m.2) :=
  mapM_map_eq_some h

/-- Members that all stand among the fields are selected by their names. -/
theorem select?_of_subset {members : Fields α} (hn : (fields.map (·.1)).Nodup) (h : members ⊆ fields) :
    fields.select? (members.map (·.1)) = some (members.map fun m => some m.2) :=
  select?_of_get? fun _ hm => get?_of_mem hn (h hm)

/-! ### Texts in fields -/

/-- The members with the texts that they hold as values. -/
def values (members : Fields Json) : Fields Value := members.map fun m => (m.1, m.2.textValue)

/-- Named values as the entries of a map. -/
def entries (fields : Fields Value) : List (Value × Value) := fields.map fun f => (.text f.1, f.2)

theorem valueMembers_of_texts {members : Fields Json} {room : ℕ} (h : ∀ m ∈ members, ∃ text, m.2 = .ofText text) :
    Json.valueMembers room (members.map fun (k, v) => (some k, v)) = some members.values.entries := by
  induction members with
  | nil => rw [List.map_nil, Json.valueMembers, values, entries, List.map_nil, List.map_nil]
  | cons m rest ih =>
    obtain ⟨⟨text, hm⟩, hrest⟩ := List.forall_mem_cons.mp h
    rw [List.map_cons, Json.valueMembers, ih hrest, hm, Json.dynamic?_ofText]
    simp [values, entries, hm, Json.textValue, Json.ofText, Json.text?]

/-- An object that holds nothing but texts is read whole wherever an object may stand. -/
theorem dynamic?_of_texts {members : Fields Json} {room : ℕ} (hroom : room ≠ 0)
    (h : ∀ m ∈ members, ∃ text, m.2 = .ofText text) :
    (Json.ofMembers members).dynamic? room = some (.map members.values.entries) := by
  rw [Json.ofMembers, Json.dynamic?, if_neg hroom, valueMembers_of_texts h, Option.map_some]

theorem fields?_entries (fields : Fields Value) : (Value.map fields.entries).fields? = some fields := by
  rw [Value.fields?, entries]
  exact Eq.trans (mapM_map_eq_some (k := id) fun _ _ => rfl) (congrArg some (List.map_id fields))

/-! ### Members with remarks -/

/-- The given members in some order, with texts beside them under names that are none of theirs. -/
def Remarked (own members : Fields Json) : Prop :=
  ∃ remarks, (∀ m ∈ remarks, m.1 ∉ own.map (·.1) ∧ ∃ text, m.2 = .ofText text) ∧ members.Perm (own ++ remarks)

namespace Remarked
variable {own members : Fields Json}

theorem refl (own : Fields Json) : Remarked own own := ⟨[], by simp, by simp⟩

/-- What holds of texts and of the given members holds of all members. -/
theorem forall_mem {p : Json → Prop} (h : Remarked own members) (htext : ∀ text, p (.ofText text))
    (hown : ∀ m ∈ own, p m.2) : ∀ m ∈ members, p m.2 := by
  obtain ⟨remarks, hremarks, hperm⟩ := h
  intro m hm
  rcases List.mem_append.mp (hperm.mem_iff.mp hm) with hm | hm
  · exact hown m hm
  · obtain ⟨-, text, heq⟩ := hremarks m hm
    exact heq ▸ htext text

/-- Each of the given members is found under its name. -/
theorem get? {m : String × Json} (h : Remarked own members) (hn : (own.map (·.1)).Nodup) (hm : m ∈ own) :
    members.get? m.1 = some (some m.2) := by
  obtain ⟨remarks, hremarks, hperm⟩ := h
  rw [get?_perm hperm, get?_append_of_fresh (fun x hx => (hremarks x hx).1) (List.mem_map_of_mem hm), get?_of_mem hn hm]

theorem select? {part : Fields Json} (h : Remarked own members) (hn : (own.map (·.1)).Nodup) (hpart : part ⊆ own) :
    members.select? (part.map (·.1)) = some (part.map fun m => some m.2) :=
  select?_of_get? fun _ hm => h.get? hn (hpart hm)

end Remarked
end Fields
end AdAdmission
