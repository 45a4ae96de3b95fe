import Mathlib
import AdAdmission.Log
import AdAdmission.Proofs.History.Index

/-! Opening the log. It succeeds just when every record under the stem has a key with a number and the
    bytes of an event, and these events are in chronological order for each surface. The history is then
    that of the events in the order of their keys, and the next number follows that of the last key. -/

namespace AdAdmission
namespace Log
open History

/-! ### One record -/

/-- The event that a record holds, when its key carries a number. -/
def event? (entry : Entry) : Option Event :=
  (sequence? entry.1).bind fun _ => Event.decode? entry.2

/-- An event joins a history when no event of its surface is later. -/
theorem precedes?_eq_none_iff {l : List Event} (h : Chronological l) {e : Event} :
    precedes? (ofList l) e = none ↔ ∀ x ∈ l, x.adKind = e.adKind → x.timestamp ≤ e.timestamp := by
  rw [← lastTimestamp?_le_iff h, precedes?, Option.filter_eq_none_iff]
  simp only [decide_eq_true_eq, Instant.not_lt]
  rfl

theorem chronological_append_iff {l : List Event} (h : Chronological l) {e : Event} :
    Chronological (l ++ [e]) ↔ precedes? (ofList l) e = none := by
  rw [chronological_append, precedes?_eq_none_iff h]
  exact and_iff_right h

theorem load_eq_ok_iff {state state' : History × UInt64} {entry : Entry} : load state entry = .ok state' ↔
    ∃ n e, sequence? entry.1 = some n ∧ Event.decode? entry.2 = some e ∧ precedes? state.1 e = none ∧
      state' = (state.1.record e, following n) := by
  rw [load]
  cases sequence? entry.1 with
  | none => simp
  | some n =>
    cases Event.decode? entry.2 with
    | none => simp
    | some e =>
      cases hp : precedes? state.1 e with
      | none => simp [hp, eq_comm]
      | some last => simp [hp]

/-! ### All records -/

/-- The number after that of the last record. -/
def nextOf (entries : List Entry) : UInt64 :=
  ((entries.getLast?.bind fun x => sequence? x.1).map following).getD 0

theorem nextOf_append {l : List Entry} {entry : Entry} {n : UInt64} (h : sequence? entry.1 = some n) :
    nextOf (l ++ [entry]) = following n := by
  simp [nextOf, h]

theorem foldlM_load_eq_ok_iff {entries : List Entry} {h : History} {n : UInt64} :
    entries.foldlM load (History.empty, 0) = .ok (h, n) ↔
      ∃ events, entries.map event? = events.map some ∧ Chronological events ∧ h = ofList events ∧
        n = nextOf entries := by
  induction entries using List.reverseRecOn generalizing h n with
  | nil =>
    constructor
    · rintro ⟨⟩
      exact ⟨[], rfl, List.Pairwise.nil, rfl, rfl⟩
    · rintro ⟨events, hmap, -, rfl, rfl⟩
      obtain rfl : events = [] := by simpa using hmap.symm
      rfl
  | append_singleton l x ih =>
    simp only [List.foldlM_append, List.foldlM_cons, List.foldlM_nil, bind_pure]
    constructor
    · intro hfold
      cases hl : l.foldlM load (History.empty, 0) with
      | error e =>
        rw [hl] at hfold
        cases hfold
      | ok state =>
        obtain ⟨events, hmap, hchron, hstate, -⟩ := ih.mp hl
        rw [hl] at hfold
        obtain ⟨m, e, hm, he, hp, heq⟩ := load_eq_ok_iff.mp hfold
        rw [hstate] at hp heq
        cases heq
        refine ⟨events ++ [e], ?_, (chronological_append_iff hchron).mpr hp, (ofList_append _ _).symm,
          (nextOf_append hm).symm⟩
        simp [hmap, event?, hm, he]
    · rintro ⟨events, hmap, hchron, rfl, rfl⟩
      rw [List.map_append, List.append_eq_map_iff] at hmap
      obtain ⟨old, new, rfl, hold, hnew⟩ := hmap
      obtain ⟨e, rfl, he⟩ := List.map_eq_singleton_iff.mp hnew
      obtain ⟨m, hm, hdecode⟩ := Option.bind_eq_some_iff.mp he.symm
      have hold' := (chronological_append.mp hchron).1
      rw [ih.mpr ⟨old, hold.symm, hold', rfl, rfl⟩]
      exact load_eq_ok_iff.mpr ⟨m, e, hm, hdecode, (chronological_append_iff hold').mp hchron, by
        rw [ofList_append, nextOf_append hm]⟩

/-- What opening asks of a store, and what it gives. -/
theorem open?_eq_ok_iff {b : Backend} {log : Log} {notice : Notice} : open? b = .ok (log, notice) ↔
    b.faults.scan = none ∧ ∃ events, (b.store.scan keyStem).map event? = events.map some ∧
      Chronological events ∧ log = ⟨b, ofList events, nextOf (b.store.scan keyStem)⟩ ∧
      notice = .logOpened events.length := by
  rw [open?, Backend.scan]
  cases hfault : b.faults.scan with
  | some e => simp
  | none =>
    simp only [true_and]
    cases hfold : (b.store.scan keyStem).foldlM load (History.empty, 0) with
    | error e =>
      refine iff_of_false (by rintro ⟨⟩) ?_
      rintro ⟨events, hmap, hchron, -⟩
      rw [foldlM_load_eq_ok_iff.mpr ⟨events, hmap, hchron, rfl, rfl⟩] at hfold
      cases hfold
    | ok state =>
      obtain ⟨events, hmap, hchron, hstate, hnext⟩ := foldlM_load_eq_ok_iff.mp hfold
      constructor
      · rintro ⟨⟩
        exact ⟨events, hmap, hchron, by rw [hstate, hnext], by rw [hstate, size_ofList]⟩
      · rintro ⟨events', hmap', -, rfl, rfl⟩
        obtain rfl : events = events' :=
          List.map_injective_iff.mpr (Option.some_injective _) (hmap.symm.trans hmap')
        obtain ⟨h, n⟩ := state
        obtain rfl : h = ofList events := hstate
        obtain rfl : n = nextOf (b.store.scan keyStem) := hnext
        rw [← size_ofList]
        rfl

theorem size_of_open? {b : Backend} {log : Log} {n₀ : Nat} (ho : open? b = .ok (log, .logOpened n₀)) :
    log.size = n₀ := by
  obtain ⟨-, events, -, -, rfl, hopened⟩ := open?_eq_ok_iff.mp ho
  exact (size_ofList events).trans (Notice.logOpened.inj hopened).symm

/-- The log of a store without entries that does not fail. -/
def fresh : Log := ⟨⟨Store.empty, Faults.none⟩, History.empty, 0⟩

theorem open?_empty : open? ⟨Store.empty, Faults.none⟩ = .ok (fresh, .logOpened 0) := rfl

end Log
end AdAdmission
