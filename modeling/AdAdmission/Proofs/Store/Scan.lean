import Mathlib
import AdAdmission.Store
import AdAdmission.Proofs.List.Ordered

/-! Entries under a stem. The keys that begin with a stem follow one another, so the scan that starts at
    the stem and stops at the first other key gives all of them. A write under the stem changes nothing
    outside it, and a write after every key of the stem adds one entry at the end. -/

namespace AdAdmission

/-! ### Stems -/

theorem beginsWith_iff {stem key : String} : beginsWith stem key = true ↔ stem.toList <+: key.toList :=
  List.isPrefixOf_iff_prefix

theorem beginsWith_of_toList_eq {stem key : String} {raw : List Char} (h : key.toList = stem.toList ++ raw) :
    beginsWith stem key = true :=
  beginsWith_iff.mpr ⟨raw, h.symm⟩

theorem not_lt_of_prefix {cs ds : List Char} (h : cs <+: ds) : ¬ds < cs := by
  obtain ⟨t, rfl⟩ := h
  induction cs with
  | nil => exact List.not_lt_nil _
  | cons c cs ih =>
    rw [List.cons_append, List.cons_lt_cons_iff]
    rintro (h | ⟨-, h⟩)
    · exact lt_irrefl c h
    · exact ih h

theorem not_lt_of_beginsWith {stem key : String} (h : beginsWith stem key = true) : ¬key < stem :=
  not_lt_of_prefix (beginsWith_iff.mp h)

/-- A text that is not before a stem, but before a key with the stem, has the stem. -/
theorem prefix_of_between {stem ds : List Char} {t : List Char} (hlow : ¬ds < stem) (hhigh : ds < stem ++ t) :
    stem <+: ds := by
  induction stem generalizing ds with
  | nil => exact List.nil_prefix
  | cons c stem ih =>
    cases ds with
    | nil => exact absurd (List.nil_lt_cons c stem) hlow
    | cons d ds =>
      rw [List.cons_lt_cons_iff, not_or, not_and] at hlow
      rw [List.cons_append, List.cons_lt_cons_iff] at hhigh
      rcases hhigh with hlt | ⟨rfl, hlt⟩
      · exact absurd hlt hlow.1
      · exact (List.prefix_cons_inj d).mpr (ih (hlow.2 rfl) hlt)

namespace Store

theorem eq_of_entries_eq {s t : Store} (h : s.entries = t.entries) : s = t := by
  cases s
  cases t
  obtain rfl := h
  rfl

/-- The entries whose keys do not begin with the given text. -/
def outside (s : Store) (stem : String) : List Entry := s.entries.filter fun e => !beginsWith stem e.1

/-! ### Scanning -/

/-- The scan gives all entries with the stem. -/
theorem scan_eq_filter (s : Store) (stem : String) :
    s.scan stem = s.entries.filter fun e => beginsWith stem e.1 := by
  have hlow : Ordered.Leading (fun e : Entry => decide (e.1 < stem)) s.entries :=
    s.ascending.imp fun hab hb => decide_eq_true (String.lt_trans hab (of_decide_eq_true hb))
  rw [scan, Ordered.dropWhile_eq_filter hlow, Ordered.takeWhile_eq_filter, List.filter_filter]
  · apply List.filter_congr
    intro e _
    cases hb : beginsWith stem e.1 with
    | false => rfl
    | true => rw [decide_eq_false (not_lt_of_beginsWith hb), Bool.not_false, Bool.and_true]
  · refine (s.ascending.filter _).imp_of_mem fun ha _ hab hb => ?_
    obtain ⟨t, ht⟩ := beginsWith_iff.mp hb
    have hna := (List.mem_filter.mp ha).2
    simp only [Bool.not_eq_true', decide_eq_false_iff_not] at hna
    exact beginsWith_iff.mpr (prefix_of_between (t := t) hna (ht ▸ hab))

theorem mem_scan {s : Store} {stem : String} {e : Entry} :
    e ∈ s.scan stem ↔ e ∈ s.entries ∧ beginsWith stem e.1 = true := by
  rw [scan_eq_filter, List.mem_filter]

theorem scan_eq_nil {s : Store} {stem : String} (h : ∀ e ∈ s.entries, beginsWith stem e.1 = false) :
    s.scan stem = [] := by
  rw [scan_eq_filter, List.filter_eq_nil_iff]
  intro e he
  rw [h e he]
  exact Bool.false_ne_true

theorem scan_ascending (s : Store) (stem : String) : (s.scan stem).Pairwise fun a b => a.1 < b.1 := by
  rw [scan_eq_filter]
  exact s.ascending.filter _

theorem size_eq (s : Store) (stem : String) : s.size = (s.scan stem).length + (s.outside stem).length := by
  rw [scan_eq_filter, outside, size, List.length_eq_length_filter_add fun e : Entry => beginsWith stem e.1]

/-! ### Writing -/

theorem insertEntry_of_forall_gt {e : Entry} {l : List Entry} (h : ∀ x ∈ l, e.1 < x.1) :
    insertEntry e l = e :: l := by
  cases l with
  | nil => rfl
  | cons x l => rw [insertEntry, if_pos (h x List.mem_cons_self)]

theorem insertEntry_of_forall_lt {e : Entry} {l : List Entry} (h : ∀ x ∈ l, x.1 < e.1) :
    insertEntry e l = l ++ [e] := by
  induction l with
  | nil => rfl
  | cons x l ih =>
    have hx := h x List.mem_cons_self
    rw [insertEntry, if_neg (String.lt_asymm hx), if_neg (String.ne_of_lt hx).symm,
      ih fun y hy => h y (List.mem_cons_of_mem _ hy), List.cons_append]

theorem filter_insertEntry_of_neg {p : String → Bool} {e : Entry} (hp : p e.1 = false) (l : List Entry) :
    (insertEntry e l).filter (fun x => p x.1) = l.filter fun x => p x.1 := by
  induction l with
  | nil => simp [insertEntry, hp]
  | cons x l ih =>
    unfold insertEntry
    split
    · rw [List.filter_cons_of_neg (by simp [hp])]
    · split
      · rename_i heq
        rw [List.filter_cons_of_neg (by simp [hp]), List.filter_cons_of_neg (by simp [← heq, hp])]
      · rw [List.filter_cons, List.filter_cons, ih]

theorem filter_insertEntry_of_pos {p : String → Bool} {e : Entry} (hp : p e.1 = true) {l : List Entry}
    (hl : l.Pairwise fun a b => a.1 < b.1) :
    (insertEntry e l).filter (fun x => p x.1) = insertEntry e (l.filter fun x => p x.1) := by
  induction l with
  | nil => simp [insertEntry, hp]
  | cons x l ih =>
    obtain ⟨hx, hl⟩ := List.pairwise_cons.mp hl
    rw [insertEntry]
    split
    · rename_i hlt
      rw [List.filter_cons_of_pos (by simp [hp]), insertEntry_of_forall_gt]
      intro y hy
      rcases List.mem_cons.mp (List.mem_filter.mp hy).1 with rfl | hy
      · exact hlt
      · exact String.lt_trans hlt (hx y hy)
    · rename_i hlt
      split
      · rename_i heq
        rw [List.filter_cons_of_pos (by simp [hp]), List.filter_cons_of_pos (by simp [← heq, hp]), insertEntry,
          if_neg hlt, if_pos heq]
      · rename_i hne
        cases hpx : p x.1 with
        | false => rw [List.filter_cons_of_neg (by simp [hpx]), List.filter_cons_of_neg (by simp [hpx]), ih hl]
        | true =>
          rw [List.filter_cons_of_pos (by simp [hpx]), List.filter_cons_of_pos (by simp [hpx]), insertEntry,
            if_neg hlt, if_neg hne, ih hl]

theorem outside_put {s : Store} {stem key : String} {value : ByteArray} (hk : beginsWith stem key = true) :
    (s.put key value).outside stem = s.outside stem :=
  filter_insertEntry_of_neg (p := fun k => !beginsWith stem k) (e := (key, value)) (by rw [hk]; rfl) s.entries

theorem scan_put {s : Store} {stem key : String} {value : ByteArray} (hk : beginsWith stem key = true) :
    (s.put key value).scan stem = insertEntry (key, value) (s.scan stem) := by
  rw [scan_eq_filter, scan_eq_filter]
  exact filter_insertEntry_of_pos (p := beginsWith stem) (e := (key, value)) hk s.ascending

/-- A write after every key of the stem adds its entry at the end. -/
theorem scan_put_of_forall_lt {s : Store} {stem key : String} {value : ByteArray} (hk : beginsWith stem key = true)
    (h : ∀ e ∈ s.scan stem, e.1 < key) : (s.put key value).scan stem = s.scan stem ++ [(key, value)] := by
  rw [scan_put hk, insertEntry_of_forall_lt h]

theorem mem_keys_insertEntry {e : Entry} {l : List Entry} {k : String} :
    k ∈ (insertEntry e l).map (·.1) ↔ k = e.1 ∨ k ∈ l.map (·.1) := by
  induction l with
  | nil => simp [insertEntry]
  | cons x l ih =>
    unfold insertEntry
    split
    · rw [List.map_cons, List.mem_cons]
    · split
      · rename_i heq
        rw [List.map_cons, List.map_cons, List.mem_cons, List.mem_cons, heq]
        tauto
      · rw [List.map_cons, List.map_cons, List.mem_cons, List.mem_cons, ih]
        tauto

theorem mem_keys_put {s : Store} {key : String} {value : ByteArray} {k : String} :
    k ∈ (s.put key value).entries.map (·.1) ↔ k = key ∨ k ∈ s.entries.map (·.1) :=
  mem_keys_insertEntry

theorem mem_insertEntry_self (e : Entry) (l : List Entry) : e ∈ insertEntry e l := by
  induction l with
  | nil => exact List.mem_cons_self
  | cons x l ih =>
    unfold insertEntry
    split
    · exact List.mem_cons_self
    · split
      · exact List.mem_cons_self
      · exact List.mem_cons_of_mem _ ih

theorem mem_put (s : Store) (key : String) (value : ByteArray) : (key, value) ∈ (s.put key value).entries :=
  mem_insertEntry_self _ _

/-! ### Clearing -/

@[simp]
theorem scan_clear (s : Store) (stem : String) : (s.clear stem).scan stem = [] := by
  rw [scan_eq_filter, clear, List.filter_filter, List.filter_eq_nil_iff]
  intro e _
  simp

@[simp]
theorem outside_clear (s : Store) (stem : String) : (s.clear stem).outside stem = s.outside stem := by
  rw [outside, clear, List.filter_filter]
  simp [outside]

end Store
end AdAdmission
