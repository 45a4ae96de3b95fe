import Mathlib
import AdAdmission.Proofs.Event.Record
import AdAdmission.Proofs.Log.Run

/-! Recovery of a log. A log that began without records writes the record of each event under the number
    of events before it, so the records stand in the order of recording and read back as the events.
    Opening the log anew on its store, at whatever point of a run, gives the same history with the same
    indexes and the same next number. -/

namespace AdAdmission
namespace Log
open History

/-! ### Records -/

/-- The records of events that are numbered from nought. -/
def recordsOf (events : List Event) : List Entry := events.mapIdx fun i e => (keyOf (UInt64.ofNat i), e.encode)

theorem recordsOf_append (l : List Event) (e : Event) :
    recordsOf (l ++ [e]) = recordsOf l ++ [(keyOf (UInt64.ofNat l.length), e.encode)] := by
  rw [recordsOf, List.mapIdx_concat]
  rfl

@[simp]
theorem length_recordsOf (events : List Event) : (recordsOf events).length = events.length := by
  simp [recordsOf]

theorem event?_keyOf (n : UInt64) (e : Event) : event? (keyOf n, e.encode) = some e := by
  simp [event?, Event.decode?_encode]

theorem map_event?_recordsOf (events : List Event) : (recordsOf events).map event? = events.map some := by
  induction events using List.reverseRecOn with
  | nil => rfl
  | append_singleton l e ih =>
    rw [recordsOf_append, List.map_append, List.map_append, ih, List.map_singleton, event?_keyOf,
      List.map_singleton]

theorem toNat_ofNat_lt {n : Nat} (h : n < 2 ^ 64) : (UInt64.ofNat n).toNat = n := by
  rw [UInt64.toNat_ofNat', Nat.mod_eq_of_lt h]

/-- The number after those of the records is the number of events. -/
theorem nextOf_recordsOf {events : List Event} (h : events.length < 2 ^ 64) :
    (nextOf (recordsOf events)).toNat = events.length := by
  induction events using List.reverseRecOn with
  | nil => rfl
  | append_singleton l e _ =>
    rw [List.length_append, List.length_singleton] at h ⊢
    have hlast : sequence? (keyOf (UInt64.ofNat l.length), e.encode).1 = some (UInt64.ofNat l.length) :=
      sequence?_keyOf _
    rw [recordsOf_append, nextOf_append hlast, following_toNat, toNat_ofNat_lt (by omega)]
    omega

theorem key_lt_of_mem_recordsOf {events : List Event} {n : UInt64} (hn : n.toNat = events.length) {x : Entry}
    (hx : x ∈ recordsOf events) : x.1 < keyOf n := by
  obtain ⟨i, hi, rfl⟩ := List.mem_mapIdx.mp hx
  have hlt := toNat_le n
  rw [keyOf_lt_keyOf, toNat_ofNat_lt (by omega), hn]
  exact hi

/-! ### The records of a run -/

/-- The history is that of the given events, and as long as the numbers last the store has exactly their
    records under the stem. -/
structure Faithful (log : Log) (events : List Event) : Prop where
  holds : log.Holds events
  scan : events.length < 2 ^ 64 → log.backend.store.scan keyStem = recordsOf events
  next : events.length < 2 ^ 64 → log.nextSequence.toNat = events.length

namespace Faithful
variable {log log' : Log} {events events' : List Event}

theorem append (h : log.Faithful events) {e : Event} {notice : Notice} (ha : log.append e = .ok (log', notice)) :
    log'.Faithful (events ++ [e]) where
  holds := h.holds.append ha
  scan := fun hlen => by
    obtain ⟨-, -, rfl, -⟩ := append_eq_ok_iff.mp ha
    have hlen' : events.length < 2 ^ 64 := lt_of_le_of_lt (by simp) hlen
    have hnext := h.next hlen'
    have hlast : ∀ x ∈ log.backend.store.scan keyStem, x.1 < keyOf log.nextSequence := fun x hx =>
      key_lt_of_mem_recordsOf hnext (h.scan hlen' ▸ hx)
    dsimp only
    rw [Store.scan_put_of_forall_lt (beginsWith_keyOf _) hlast, h.scan hlen', recordsOf_append, ← hnext,
      UInt64.ofNat_toNat]
  next := fun hlen => by
    obtain ⟨-, -, rfl, -⟩ := append_eq_ok_iff.mp ha
    rw [List.length_append, List.length_singleton] at hlen ⊢
    dsimp only
    rw [following_toNat, h.next (by omega)]
    omega

theorem reset {notice : Notice} (hr : log.reset = .ok (log', notice)) : log'.Faithful [] := by
  have hholds := Holds.reset hr
  obtain ⟨-, rfl, -⟩ := reset_eq_ok_iff.mp hr
  exact ⟨hholds, fun _ => Store.scan_clear _ _, fun _ => rfl⟩

theorem step {op : Operation} (hs : Step log events op log' events') (h : log.Faithful events) :
    log'.Faithful events' := by
  cases hs with
  | appended ha => exact h.append ha
  | removed hr => exact Faithful.reset hr
  | failed => exact h
  | setFaults => exact ⟨⟨h.holds.history, h.holds.chronological⟩, h.scan, h.next⟩

theorem open?_eq (h : log.Faithful events) (hlen : events.length < 2 ^ 64) {faults : Faults}
    (hf : faults.scan = none) : open? ⟨log.backend.store, faults⟩ =
      .ok (⟨⟨log.backend.store, faults⟩, log.history, log.nextSequence⟩, .logOpened log.size) := by
  refine open?_eq_ok_iff.mpr ⟨hf, events, ?_, h.holds.chronological, ?_, by rw [h.holds.size]⟩
  · dsimp only
    rw [h.scan hlen, map_event?_recordsOf]
  · dsimp only
    rw [h.holds.history, h.scan hlen, Log.mk.injEq]
    refine ⟨rfl, rfl, UInt64.toNat_inj.mp ?_⟩
    rw [h.next hlen, nextOf_recordsOf hlen]

end Faithful

theorem countP_keyStem (s : Store) : s.entries.countP (fun x => beginsWith keyStem x.1) = (s.scan keyStem).length := by
  rw [List.countP_eq_length_filter, Store.scan_eq_filter]

theorem open?_of_scan_eq_nil {b : Backend} (hf : b.faults.scan = none) (h : b.store.scan keyStem = []) :
    open? b = .ok (⟨b, History.empty, 0⟩, .logOpened 0) :=
  open?_eq_ok_iff.mpr ⟨hf, [], by rw [h]; rfl, List.Pairwise.nil, by rw [h]; rfl, rfl⟩

/-! ### Reopening -/

/-- A log that is opened on a store without event records can be reopened at every point of every run,
    while its numbers last: opening it anew gives the same history and the same next number. There are
    as many event records as events, and the other entries of the store are untouched. -/
theorem reopen_after_run {b : Backend} (hf : b.faults.scan = none)
    (hempty : ∀ x ∈ b.store.entries, beginsWith keyStem x.1 = false) :
    ∃ log notice, open? b = .ok (log, notice) ∧
      ∀ ops live, log.performAll ops = live → (log.recordedAll [] ops).length < 2 ^ 64 →
        (∀ faults : Faults, faults.scan = none → open? ⟨live.backend.store, faults⟩ =
          .ok (⟨⟨live.backend.store, faults⟩, live.history, live.nextSequence⟩, .logOpened live.size)) ∧
        live.history = ofList (log.recordedAll [] ops) ∧
        live.backend.store.entries.countP (fun x => beginsWith keyStem x.1) = live.size ∧
        live.backend.store.entries.filter (fun x => !beginsWith keyStem x.1) = b.store.entries := by
  have hscan : b.store.scan keyStem = [] := by
    rw [Store.scan_eq_filter, List.filter_eq_nil_iff]
    intro x hx
    rw [hempty x hx]
    exact Bool.false_ne_true
  refine ⟨⟨b, History.empty, 0⟩, .logOpened 0, open?_of_scan_eq_nil hf hscan, ?_⟩
  rintro ops live rfl hlen
  have hstart : Faithful ⟨b, History.empty, 0⟩ [] := ⟨⟨rfl, List.Pairwise.nil⟩, fun _ => hscan, fun _ => rfl⟩
  have h := performAll_induction Faithful.step _ _ hstart ops
  refine ⟨fun faults hf => h.open?_eq hlen hf, h.holds.history, ?_, ?_⟩
  · rw [countP_keyStem, h.scan hlen, length_recordsOf, h.holds.size]
  · refine (outside_performAll _ ops).trans (List.filter_eq_self.mpr fun x hx => ?_)
    rw [hempty x hx]
    rfl

/-- A log beside another entry of the store, through a view, a removal and the view once more: there is one event
    record, and the other entry is still there. -/
theorem reopen_beside_other_entry :
    ∃ log notice, open? ⟨Store.empty.put "profile" ByteArray.empty, Faults.none⟩ = .ok (log, notice) ∧
      ∃ live, log.performAll [.append (epochView "ad"), .reset, .append (epochView "ad")] = live ∧
        open? ⟨live.backend.store, Faults.none⟩ =
          .ok (⟨⟨live.backend.store, Faults.none⟩, live.history, live.nextSequence⟩, .logOpened live.size) ∧
        live.size = 1 ∧
        live.backend.store.entries.countP (fun x => beginsWith keyStem x.1) = 1 ∧
        live.backend.store.entries.filter (fun x => !beginsWith keyStem x.1) = [("profile", ByteArray.empty)] := by
  have hempty : ∀ x ∈ (Store.empty.put "profile" ByteArray.empty).entries, beginsWith keyStem x.1 = false := by
    intro x hx
    obtain rfl := List.mem_singleton.mp hx
    decide
  obtain ⟨log, notice, ho, h⟩ := reopen_after_run (b := ⟨_, Faults.none⟩) rfl hempty
  cases ho.symm.trans (open?_of_scan_eq_nil rfl (by decide))
  obtain ⟨hopen, -, hcount, hother⟩ := h [.append (epochView "ad"), .reset, .append (epochView "ad")] _ rfl
    (lt_of_le_of_lt (length_recordedAll_le _ _ _) (by simp))
  exact ⟨_, _, ho, _, rfl, hopen Faults.none rfl, rfl, hcount, hother⟩

end Log
end AdAdmission
