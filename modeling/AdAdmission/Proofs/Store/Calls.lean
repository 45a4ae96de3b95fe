import Mathlib
import AdAdmission.Proofs.Store.Scan
import AdAdmission.Proofs.Text.Utf8

/-! What a store holds after calls. A put replaces the entry of its key alone, and a clearing removes the entries that
    a scan would give. So a store that was empty holds under each key what was put there last, if no clearing
    of a text that the key begins with came later, and its scans give that in the order of the bytes of the keys. -/

namespace AdAdmission

/-! ### Bytes of keys -/

/-- The bytes of the key begin with the bytes of the stem. -/
def Under (stem key : String) : Prop := stem.toUTF8.data.toList <+: key.toUTF8.data.toList

instance (stem key : String) : Decidable (Under stem key) := inferInstanceAs (Decidable (_ <+: _))

theorem beginsWith_iff_under {stem key : String} : beginsWith stem key = true ↔ Under stem key := by
  rw [beginsWith_iff, Under, ← Text.bytes_toList, ← Text.bytes_toList, Text.bytes_prefix_bytes_iff]

namespace Store

/-! ### Single entries -/

variable {s : Store} {e : Entry} {key stem : String} {value other : ByteArray}

/-- A key has one entry. -/
theorem eq_of_mem_of_mem (h : (key, value) ∈ s.entries) (h' : (key, other) ∈ s.entries) : value = other := by
  have hkeys : (s.entries.map (·.1)).Nodup := List.pairwise_map.mpr (s.ascending.imp String.ne_of_lt)
  exact congrArg Prod.snd (List.inj_on_of_nodup_map hkeys h h' rfl)

theorem mem_put_of_ne (h : e.1 ≠ key) : e ∈ (s.put key value).entries ↔ e ∈ s.entries := by
  have hfilter := filter_insertEntry_of_neg (p := (· != key)) (e := (key, value)) (by simp) s.entries
  have hmem : ∀ l : List Entry, e ∈ l.filter (fun x => x.1 != key) ↔ e ∈ l := by simp [h]
  rw [← hmem s.entries, ← hfilter, hmem]
  exact Iff.rfl

theorem mem_put_iff : e ∈ (s.put key value).entries ↔ e = (key, value) ∨ e.1 ≠ key ∧ e ∈ s.entries := by
  by_cases hk : e.1 = key
  · obtain ⟨k, v⟩ := e
    obtain rfl : k = key := hk
    refine ⟨fun h => Or.inl ?_, fun h => h.elim (· ▸ mem_put s k value) fun h => absurd rfl h.1⟩
    rw [eq_of_mem_of_mem h (mem_put s k value)]
  · rw [mem_put_of_ne hk]
    refine ⟨fun h => Or.inr ⟨hk, h⟩, fun h => h.elim (fun h => absurd (congrArg Prod.fst h) hk) And.right⟩

theorem mem_clear_iff : e ∈ (s.clear stem).entries ↔ e ∈ s.entries ∧ ¬Under stem e.1 := by
  rw [clear, List.mem_filter, ← beginsWith_iff_under, Bool.not_eq_true', Bool.not_eq_true]

/-! ### Calls -/

/-- A call that changes what a store holds. -/
inductive Call where
  | put (key : String) (value : ByteArray)
  | clear (stem : String)

/-- Carries out a call. -/
def perform (s : Store) : Call → Store
  | .put key value => s.put key value
  | .clear stem => s.clear stem

/-- Carries out calls, in order. -/
def performAll (s : Store) (calls : List Call) : Store := calls.foldl perform s

/-- The call decides what is under the key: it writes the key, or clears a text that the key begins with. -/
def Call.Touches (key : String) : Call → Prop
  | .put k _ => k = key
  | .clear stem => Under stem key

/-- The last call that touches the key wrote the value. -/
def LastPut (calls : List Call) (key : String) (value : ByteArray) : Prop :=
  ∃ earlier later, calls = earlier ++ .put key value :: later ∧ ∀ call ∈ later, ¬call.Touches key

theorem not_lastPut_nil : ¬LastPut [] key value := by
  rintro ⟨earlier, later, h, -⟩
  simp at h

theorem lastPut_concat {calls : List Call} {call : Call} :
    LastPut (calls ++ [call]) key value ↔
      call = .put key value ∨ ¬call.Touches key ∧ LastPut calls key value := by
  constructor
  · rintro ⟨earlier, later, h, hlater⟩
    rcases List.eq_nil_or_concat' later with rfl | ⟨later, last, rfl⟩
    · exact Or.inl (List.singleton_inj.mp (List.append_inj' h rfl).2)
    · rw [← List.cons_append, ← List.append_assoc] at h
      obtain ⟨hcalls, hlast⟩ := List.append_inj' h rfl
      obtain rfl := List.singleton_inj.mp hlast
      exact Or.inr ⟨hlater _ (by simp), earlier, later, hcalls, fun x hx => hlater x (by simp [hx])⟩
  · rintro (rfl | ⟨htouches, earlier, later, rfl, hlater⟩)
    · exact ⟨calls, [], rfl, by simp⟩
    · refine ⟨earlier, later ++ [call], by simp, fun x hx => ?_⟩
      rcases List.mem_append.mp hx with hx | hx
      · exact hlater x hx
      · exact List.mem_singleton.mp hx ▸ htouches

/-- After some calls, a store that was empty holds what they wrote last. -/
theorem mem_performAll_iff (calls : List Call) :
    (key, value) ∈ (empty.performAll calls).entries ↔ LastPut calls key value := by
  induction calls using List.reverseRecOn with
  | nil => exact iff_of_false List.not_mem_nil not_lastPut_nil
  | append_singleton calls call ih =>
    rw [performAll, List.foldl_concat, ← performAll, lastPut_concat]
    cases call with
    | put k v =>
      rw [perform, mem_put_iff, ih]
      simp [Call.Touches, eq_comm]
    | clear stem =>
      rw [perform, mem_clear_iff, ih]
      simp [Call.Touches, and_comm]

/-- What the scans of a store that was filled by calls give, and what a clearing would remove. -/
structure Tells (s : Store) (calls : List Call) : Prop where
  scanned : ∀ stem key value, (key, value) ∈ s.scan stem ↔ Under stem key ∧ LastPut calls key value
  ascending : ∀ stem, (s.scan stem).Pairwise fun a b => a.1.toUTF8.data.toList < b.1.toUTF8.data.toList
  distinct : ∀ stem, ((s.scan stem).map (·.1)).Nodup
  filtered : ∀ stem, s.scan stem = s.entries.filter fun e => Under stem e.1
  whole : s.scan "" = s.entries
  cleared : ∀ stem e, e ∈ (s.clear stem).entries ↔ e ∈ s.entries ∧ e ∉ s.scan stem

theorem scan_eq_filter_under (s : Store) (stem : String) : s.scan stem = s.entries.filter fun e => Under stem e.1 := by
  rw [scan_eq_filter]
  refine List.filter_congr fun e _ => ?_
  rw [Bool.eq_iff_iff, beginsWith_iff_under, decide_eq_true_iff]

theorem mem_clear_iff_not_mem_scan : e ∈ (s.clear stem).entries ↔ e ∈ s.entries ∧ e ∉ s.scan stem := by
  rw [mem_clear_iff, mem_scan, beginsWith_iff_under]
  tauto

/-- Whatever calls filled a store, a scan gives the keys that begin with the stem and were put after the last clearing
    that concerns them, each once with the value that was put last, in the order of their bytes. It stops early but
    leaves out nothing that a look at every entry would find, and a clearing removes just what it gives. -/
theorem scan_tells_last_puts (calls : List Call) : (empty.performAll calls).Tells calls where
  scanned stem key value := by
    rw [mem_scan, mem_performAll_iff, beginsWith_iff_under, and_comm]
  ascending stem := (scan_ascending _ stem).imp Text.lt_iff_toUTF8_lt.mp
  distinct stem := List.pairwise_map.mpr ((scan_ascending _ stem).imp String.ne_of_lt)
  filtered stem := scan_eq_filter_under _ stem
  whole := by
    rw [scan_eq_filter, List.filter_eq_self]
    exact fun e _ => beginsWith_iff.mpr List.nil_prefix
  cleared _ _ := mem_clear_iff_not_mem_scan

end Store
end AdAdmission
