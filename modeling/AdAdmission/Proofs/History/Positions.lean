import Mathlib
import AdAdmission.Proofs.History.Index

/-! The lists of an index. A key that occurs has one list, with the positions of its events in ascending order
    and no others, so the lists of an index share out the positions of the history among them. Recording an
    event keeps this in the indexes of surfaces, ads and campaigns at once. -/

namespace AdAdmission
namespace Index
variable {α : Type}

/-! ### Keys -/

/-- A key has one list at most, and no list is empty. -/
structure Tidy (index : Index α) : Prop where
  keys : (index.map Prod.fst).Nodup
  filled : ∀ x ∈ index, x.2 ≠ []

theorem tidy_nil : Tidy ([] : Index α) := ⟨List.nodup_nil, List.forall_mem_nil _⟩

theorem tidy_cons {k : α} {ps : List Nat} {rest : Index α} :
    Tidy ((k, ps) :: rest) ↔ k ∉ rest.map Prod.fst ∧ ps ≠ [] ∧ Tidy rest := by
  constructor
  · rintro ⟨hkeys, hfilled⟩
    obtain ⟨hk, hrest⟩ := List.nodup_cons.mp hkeys
    obtain ⟨hps, hfilled⟩ := List.forall_mem_cons.mp hfilled
    exact ⟨hk, hps, hrest, hfilled⟩
  · rintro ⟨hk, hps, hrest⟩
    exact ⟨List.nodup_cons.mpr ⟨hk, hrest.keys⟩, List.forall_mem_cons.mpr ⟨hps, hrest.filled⟩⟩

variable [DecidableEq α] {index : Index α} {key : Event → α} {events : List Event}

theorem mem_keys_add {k other : α} {i : Nat} :
    other ∈ (index.add k i).map Prod.fst ↔ other = k ∨ other ∈ index.map Prod.fst := by
  induction index with
  | nil => simp [add]
  | cons x rest ih =>
    obtain ⟨k₀, ps⟩ := x
    by_cases hk : k₀ = k
    · simp [add, hk]
    · simp only [add, if_neg hk, List.map_cons, List.mem_cons, ih]
      exact or_left_comm

theorem Tidy.add (h : index.Tidy) (k : α) (i : Nat) : (index.add k i).Tidy := by
  induction index with
  | nil => exact tidy_cons.mpr ⟨List.not_mem_nil, List.cons_ne_nil _ _, h⟩
  | cons x rest ih =>
    obtain ⟨k₀, ps⟩ := x
    obtain ⟨hnew, hps, hrest⟩ := tidy_cons.mp h
    by_cases hk : k₀ = k
    · rw [Index.add, if_pos hk]
      exact tidy_cons.mpr ⟨hnew, by simp, hrest⟩
    · rw [Index.add, if_neg hk]
      refine tidy_cons.mpr ⟨fun hmem => ?_, hps, ih hrest⟩
      rcases mem_keys_add.mp hmem with heq | hold
      · exact hk heq
      · exact hnew hold

theorem Tidy.positions_eq (h : index.Tidy) {x : α × List Nat} (hx : x ∈ index) : index.positions x.1 = x.2 := by
  induction index with
  | nil => cases hx
  | cons y rest ih =>
    obtain ⟨k, ps⟩ := y
    obtain ⟨hk, -, hrest⟩ := tidy_cons.mp h
    rcases List.mem_cons.mp hx with rfl | hx
    · exact if_pos rfl
    · have hne : k ≠ x.1 := fun heq => hk (heq ▸ List.mem_map_of_mem hx)
      exact (if_neg hne).trans (ih hrest hx)

theorem mem_of_positions_ne_nil {k : α} (h : index.positions k ≠ []) : (k, index.positions k) ∈ index := by
  induction index with
  | nil => exact absurd rfl h
  | cons x rest ih =>
    obtain ⟨k₀, ps⟩ := x
    by_cases hk : k₀ = k
    · simp [positions, hk]
    · rw [positions, if_neg hk] at h ⊢
      exact List.mem_cons_of_mem _ (ih h)

/-! ### Positions -/

theorem Locates.mem_positions_iff (h : index.Locates key events) {k : α} {i : Nat} :
    i ∈ index.positions k ↔ ∃ e, events[i]? = some e ∧ key e = k := by
  rw [h k, List.mem_findIdxs_iff_exists_getElem_pos]
  constructor
  · rintro ⟨hi, hk⟩
    exact ⟨events[i], List.getElem?_eq_getElem hi, beq_iff_eq.mp hk⟩
  · rintro ⟨e, he, rfl⟩
    obtain ⟨hi, rfl⟩ := List.getElem?_eq_some_iff.mp he
    exact ⟨hi, beq_self_eq_true _⟩

/-- Each key of the events has one list, and the lists share out the positions of the events by their keys. -/
structure Partitions (index : Index α) (key : Event → α) (events : List Event) : Prop extends Tidy index where
  ascending : ∀ x ∈ index, x.2.Pairwise (· < ·)
  bounded : ∀ x ∈ index, ∀ i ∈ x.2, i < events.length
  exact : ∀ x ∈ index, ∀ i, i ∈ x.2 ↔ ∃ e, events[i]? = some e ∧ key e = x.1
  once : ∀ i < events.length, ∃! x, x ∈ index ∧ i ∈ x.2

theorem Tidy.partitions (h : index.Tidy) (hl : index.Locates key events) : index.Partitions key events := by
  have hexact : ∀ x ∈ index, ∀ i, i ∈ x.2 ↔ ∃ e, events[i]? = some e ∧ key e = x.1 := fun x hx i => by
    rw [← h.positions_eq hx]
    exact hl.mem_positions_iff
  refine ⟨h, fun x hx => ?_, fun x hx i hi => ?_, hexact, fun i hi => ?_⟩
  · rw [← h.positions_eq hx, hl x.1]
    exact List.pairwise_findIdxs
  · obtain ⟨e, he, -⟩ := (hexact x hx i).mp hi
    exact (List.getElem?_eq_some_iff.mp he).1
  · have he : events[i]? = some events[i] := List.getElem?_eq_getElem hi
    have hmem : i ∈ index.positions (key events[i]) := hl.mem_positions_iff.mpr ⟨_, he, rfl⟩
    refine ⟨_, ⟨mem_of_positions_ne_nil (List.ne_nil_of_mem hmem), hmem⟩, ?_⟩
    rintro ⟨k, ps⟩ ⟨hx, hi⟩
    obtain ⟨e, he', rfl⟩ := (hexact _ hx i).mp hi
    obtain rfl : events[i] = e := Option.some.inj (he.symm.trans he')
    exact Prod.ext rfl (h.positions_eq hx).symm

/-- No lookup gives a position out of range, not even that of a key that does not occur. -/
theorem Partitions.lt_of_mem_positions (h : index.Partitions key events) {k : α} {i : Nat}
    (hi : i ∈ index.positions k) : i < events.length :=
  h.bounded _ (mem_of_positions_ne_nil (List.ne_nil_of_mem hi)) i hi

end Index

namespace History

/-- Each of the three indexes shares out the positions of the recorded events. -/
structure Indexed (h : History) : Prop where
  byKind : h.byKind.Partitions Event.adKind h.events.toList
  byAd : h.byAd.Partitions Event.adIdentifier h.events.toList
  bySet : h.bySet.Partitions Event.creativeSetId h.events.toList

theorem tidy_ofList (l : List Event) : (ofList l).byKind.Tidy ∧ (ofList l).byAd.Tidy ∧ (ofList l).bySet.Tidy := by
  induction l using List.reverseRecOn with
  | nil => exact ⟨Index.tidy_nil, Index.tidy_nil, Index.tidy_nil⟩
  | append_singleton l e ih =>
    rw [ofList_append]
    exact ⟨ih.1.add _ _, ih.2.1.add _ _, ih.2.2.add _ _⟩

theorem indexed_ofList (l : List Event) : (ofList l).Indexed := by
  obtain ⟨hkind, had, hset⟩ := tidy_ofList l
  obtain ⟨hkind', had', hset'⟩ := locates_ofList l
  constructor <;> rw [events_ofList]
  · exact hkind.partitions hkind'
  · exact had.partitions had'
  · exact hset.partitions hset'

end History
end AdAdmission
