import Mathlib
import AdAdmission.Proofs.Event.Record
import AdAdmission.Proofs.Log.Chronology
import AdAdmission.Proofs.Log.Keys
import AdAdmission.Proofs.Store.Scan

/-! Corrupt stores. A record is wrong when its key carries no number, when its value is no event, or when the
    event is earlier than one of its surface in the records before it. A store opens just when no record
    is wrong, and otherwise the one with the smallest key is blamed, for the first thing that is wrong
    with it. Entries that are no event records are passed over. -/

namespace AdAdmission

/-- The entries under the stem of event records, in the order of their keys. -/
def Store.eventRecords (s : Store) : List Entry := s.entries.filter fun x => beginsWith Log.keyStem x.1

namespace Log
open History

/-! ### Well-formed records -/

/-- Behind the stem the key has digits of a number below `2 ^ 64`, with or without a plus sign before them. -/
def Numbered (key : String) : Prop :=
  ∃ sign ds, key.toList = keyStem.toList ++ (sign ++ ds) ∧ (sign = [] ∨ sign = ['+']) ∧ ds ≠ [] ∧
    Text.AllDigits ds ∧ Text.valueOf ds < 2 ^ 64

theorem numbered_iff {key : String} : Numbered key ↔ ∃ n, sequence? key = some n := by
  simp only [sequence?_eq_some_iff]
  constructor
  · rintro ⟨sign, ds, hkey, hsign, hne, hds, hlt⟩
    exact ⟨UInt64.ofNat (Text.valueOf ds), sign, ds, hkey, hsign, hne, hds, (UInt64.toNat_ofNat_of_lt' hlt).symm⟩
  · rintro ⟨n, sign, ds, hkey, hsign, hne, hds, hv⟩
    exact ⟨sign, ds, hkey, hsign, hne, hds, hv ▸ n.toNat_lt⟩

theorem not_numbered_iff {key : String} : ¬Numbered key ↔ sequence? key = none := by
  rw [numbered_iff, ← Option.isSome_iff_exists, Option.not_isSome_iff_eq_none]

/-- The events that the values of the records hold, in order. -/
def eventsOf (records : List Entry) : List Event := records.filterMap fun x => Event.decode? x.2

theorem eventsOf_append (l l' : List Entry) : eventsOf (l ++ l') = eventsOf l ++ eventsOf l' := List.filterMap_append

theorem eventsOf_cons {x : Entry} {e : Event} (hx : Event.decode? x.2 = some e) (l : List Entry) :
    eventsOf (x :: l) = e :: eventsOf l := List.filterMap_cons_some hx

/-- Every key carries a number, every value holds an event, and the events of each surface are in the order of their
    timestamps. -/
structure WellFormed (records : List Entry) : Prop where
  numbered : ∀ x ∈ records, Numbered x.1
  decodable : ∀ x ∈ records, ∃ e, Event.decode? x.2 = some e
  chronological : Chronological (eventsOf records)

theorem wellFormed_singleton {key : String} {value : ByteArray} {n : UInt64} {e : Event} (hkey : sequence? key = some n)
    (hvalue : Event.decode? value = some e) : WellFormed [(key, value)] := by
  refine ⟨List.forall_mem_singleton.mpr (numbered_iff.mpr ⟨n, hkey⟩), List.forall_mem_singleton.mpr ⟨e, hvalue⟩, ?_⟩
  rw [eventsOf_cons hvalue]
  exact List.pairwise_singleton _ _

theorem event?_eq_some_iff {x : Entry} {e : Event} :
    event? x = some e ↔ Numbered x.1 ∧ Event.decode? x.2 = some e := by
  rw [event?, Option.bind_eq_some_iff, numbered_iff]
  exact exists_and_right

theorem map_event?_eq_iff {records : List Entry} {events : List Event} : records.map event? = events.map some ↔
    (∀ x ∈ records, Numbered x.1) ∧ records.map (fun x => Event.decode? x.2) = events.map some := by
  induction records generalizing events with
  | nil => simp
  | cons x records ih =>
    cases events with
    | nil => simp
    | cons e events =>
      simp only [List.map_cons, List.cons.injEq, List.forall_mem_cons, ih, event?_eq_some_iff]
      exact and_and_and_comm

theorem map_decode?_eq_iff {records : List Entry} {events : List Event} :
    records.map (fun x => Event.decode? x.2) = events.map some ↔
      (∀ x ∈ records, ∃ e, Event.decode? x.2 = some e) ∧ eventsOf records = events := by
  induction records generalizing events with
  | nil => simp [eventsOf]
  | cons x records ih =>
    cases hx : Event.decode? x.2 with
    | none => cases events <;> simp [hx]
    | some e =>
      rw [eventsOf_cons hx]
      cases events with
      | nil => simp
      | cons e' events =>
        simp only [List.map_cons, List.cons.injEq, List.forall_mem_cons, ih, hx, Option.some.injEq, exists_eq',
          true_and]
        exact and_left_comm

theorem foldlM_load_eq_ok_iff_wellFormed {records : List Entry} {h : History} {n : UInt64} :
    records.foldlM load (History.empty, 0) = .ok (h, n) ↔
      WellFormed records ∧ h = ofList (eventsOf records) ∧ n = nextOf records := by
  simp only [foldlM_load_eq_ok_iff, map_event?_eq_iff, map_decode?_eq_iff]
  constructor
  · rintro ⟨events, ⟨hnum, hdec, rfl⟩, hchron, rfl, rfl⟩
    exact ⟨⟨hnum, hdec, hchron⟩, rfl, rfl⟩
  · rintro ⟨hw, rfl, rfl⟩
    exact ⟨_, ⟨hw.numbered, hw.decodable, rfl⟩, hw.chronological, rfl, rfl⟩

/-! ### Wrong records -/

/-- What is wrong with a record that comes after these events. The key is looked at before the value, and the value
    before the order. -/
inductive Wrong (before : List Event) (x : Entry) : RecordFault → Prop where
  | badKey (hkey : ¬Numbered x.1) : Wrong before x .badKey
  | undecodable (hkey : Numbered x.1) (hvalue : Event.decode? x.2 = none) : Wrong before x .undecodable
  | precedes (hkey : Numbered x.1) {e : Event} (hvalue : Event.decode? x.2 = some e) {last : Instant}
    (hlast : IsNewest before e.adKind last) (hlt : e.timestamp < last) :
    Wrong before x (.precedes e.adKind e.timestamp last)

theorem load_of_wrong {before : List Event} (h : Chronological before) {n : UInt64} {x : Entry} {fault : RecordFault}
    (hw : Wrong before x fault) : load (ofList before, n) x = .error (.corrupt x.1 fault) := by
  rw [load]
  cases hw with
  | badKey hkey => rw [not_numbered_iff.mp hkey]
  | undecodable hkey hvalue =>
    obtain ⟨m, hm⟩ := numbered_iff.mp hkey
    rw [hm, hvalue]
  | precedes hkey hvalue hlast hlt =>
    obtain ⟨m, hm⟩ := numbered_iff.mp hkey
    simp only [hm, hvalue, (precedes?_eq_some_iff h).mpr ⟨hlast, hlt⟩]

theorem exists_wrong_of_load {before : List Event} (h : Chronological before) {n : UInt64} {x : Entry} {err : LogError}
    (he : load (ofList before, n) x = .error err) : ∃ fault, Wrong before x fault ∧ err = .corrupt x.1 fault := by
  rw [load] at he
  cases hkey : sequence? x.1 with
  | none =>
    rw [hkey] at he
    cases he
    exact ⟨_, .badKey (not_numbered_iff.mpr hkey), rfl⟩
  | some m =>
    have hnum : Numbered x.1 := numbered_iff.mpr ⟨m, hkey⟩
    cases hvalue : Event.decode? x.2 with
    | none =>
      rw [hkey, hvalue] at he
      cases he
      exact ⟨_, .undecodable hnum hvalue, rfl⟩
    | some e =>
      cases hp : precedes? (ofList before) e with
      | none =>
        simp only [hkey, hvalue, hp] at he
        cases he
      | some last =>
        simp only [hkey, hvalue, hp] at he
        cases he
        obtain ⟨hlast, hlt⟩ := (precedes?_eq_some_iff h).mp hp
        exact ⟨_, .precedes hnum hvalue hlast hlt, rfl⟩

theorem WellFormed.not_wrong {before after : List Entry} {x : Entry} (h : WellFormed (before ++ x :: after))
    (fault : RecordFault) : ¬Wrong (eventsOf before) x fault := by
  have hx : x ∈ before ++ x :: after := List.mem_append_right _ List.mem_cons_self
  intro hw
  cases hw with
  | badKey hkey => exact hkey (h.numbered x hx)
  | undecodable _ hvalue =>
    obtain ⟨e, he⟩ := h.decodable x hx
    cases he.symm.trans hvalue
  | @precedes _ e hvalue last hlast hlt =>
    have hchron := h.chronological
    rw [eventsOf_append, eventsOf_cons hvalue] at hchron
    obtain ⟨y, hy, hk, rfl⟩ := hlast.attained
    exact hlt ((List.pairwise_append.mp hchron).2.2 y hy e List.mem_cons_self hk)

/-! ### The first wrong record -/

/-- The events of the records with smaller keys. -/
def eventsBefore (s : Store) (key : String) : List Event := eventsOf (s.eventRecords.filter fun y => y.1 < key)

/-- Of the records of the store that are wrong after those before them, this is the one with the smallest key. -/
structure FirstWrong (s : Store) (x : Entry) (fault : RecordFault) : Prop where
  record : x ∈ s.eventRecords
  wrong : Wrong (eventsBefore s x.1) x fault
  smallest : ∀ y ∈ s.eventRecords, ∀ other, Wrong (eventsBefore s y.1) y other → x.1 ≤ y.1

theorem eventRecords_ascending (s : Store) : s.eventRecords.Pairwise fun a b => a.1 < b.1 := s.ascending.filter _

theorem eventsBefore_eq {s : Store} {before after : List Entry} {x : Entry} (h : s.eventRecords = before ++ x :: after) :
    eventsBefore s x.1 = eventsOf before := by
  have hasc := eventRecords_ascending s
  rw [h] at hasc
  obtain ⟨-, hright, hleft⟩ := List.pairwise_append.mp hasc
  have hbefore : before.filter (fun y => y.1 < x.1) = before :=
    List.filter_eq_self.mpr fun y hy => decide_eq_true (hleft y hy x List.mem_cons_self)
  have hafter : (x :: after).filter (fun y => y.1 < x.1) = [] := by
    refine List.filter_eq_nil_iff.mpr fun y hy => ?_
    rw [decide_eq_true_eq]
    rcases List.mem_cons.mp hy with rfl | hy
    · exact String.lt_irrefl _
    · exact String.lt_asymm ((List.pairwise_cons.mp hright).1 y hy)
  rw [eventsBefore, h, List.filter_append, hbefore, hafter, List.append_nil]

/-- A fold that fails does so at one element, after those before it went well. -/
theorem exists_of_foldlM_eq_error {α β ε : Type} {f : β → α → Except ε β} {l : List α} {b : β} {err : ε}
    (h : l.foldlM f b = .error err) : ∃ before x after b', l = before ++ x :: after ∧ before.foldlM f b = .ok b' ∧
      f b' x = .error err := by
  induction l generalizing b with
  | nil => cases h
  | cons x l ih =>
    rw [List.foldlM_cons] at h
    cases hx : f b x with
    | error err' =>
      rw [hx] at h
      cases h
      exact ⟨[], x, l, b, rfl, rfl, hx⟩
    | ok b₁ =>
      rw [hx] at h
      obtain ⟨before, y, after, b', rfl, hok, herr⟩ := ih h
      refine ⟨x :: before, y, after, b', rfl, ?_, herr⟩
      rw [List.foldlM_cons, hx]
      exact hok

theorem exists_firstWrong {s : Store} {err : LogError}
    (h : s.eventRecords.foldlM load (History.empty, 0) = .error err) :
    ∃ x fault, FirstWrong s x fault ∧ Chronological (eventsBefore s x.1) ∧ err = .corrupt x.1 fault := by
  obtain ⟨before, x, after, ⟨_, _⟩, hsplit, hok, herr⟩ := exists_of_foldlM_eq_error h
  obtain ⟨hwell, rfl, -⟩ := foldlM_load_eq_ok_iff_wellFormed.mp hok
  obtain ⟨fault, hwrong, rfl⟩ := exists_wrong_of_load hwell.chronological herr
  have hbefore := eventsBefore_eq hsplit
  refine ⟨x, fault, ⟨by simp [hsplit], hbefore ▸ hwrong, fun y hy other hother => ?_⟩, hbefore ▸ hwell.chronological, rfl⟩
  have hasc := eventRecords_ascending s
  rw [hsplit] at hasc hy
  rcases List.mem_append.mp hy with hy | hy
  · -- A record before the one that is blamed is not wrong.
    obtain ⟨left, right, rfl⟩ := List.append_of_mem hy
    rw [eventsBefore_eq (hsplit.trans (List.append_assoc _ _ _))] at hother
    exact absurd hother (hwell.not_wrong other)
  · rcases List.mem_cons.mp hy with rfl | hy
    · exact String.le_refl _
    · exact String.not_lt.mp (String.lt_asymm ((List.pairwise_cons.mp (List.pairwise_append.mp hasc).2.1).1 y hy))

theorem eq_of_key_eq {s : Store} {x y : Entry} (hx : x ∈ s.eventRecords) (hy : y ∈ s.eventRecords) (h : x.1 = y.1) :
    x = y := by
  have hnodup : (s.eventRecords.map (·.1)).Nodup :=
    List.pairwise_map.mpr ((eventRecords_ascending s).imp String.ne_of_lt)
  exact List.inj_on_of_nodup_map hnodup hx hy h

theorem foldlM_load_eq_error_iff {s : Store} {err : LogError} :
    s.eventRecords.foldlM load (History.empty, 0) = .error err ↔
      ∃ x fault, FirstWrong s x fault ∧ err = .corrupt x.1 fault := by
  constructor
  · intro h
    obtain ⟨x, fault, hx, -, rfl⟩ := exists_firstWrong h
    exact ⟨x, fault, hx, rfl⟩
  · rintro ⟨y, fault', hy, rfl⟩
    cases hfold : s.eventRecords.foldlM load (History.empty, 0) with
    | ok state =>
      have hwell := (foldlM_load_eq_ok_iff_wellFormed.mp hfold).1
      obtain ⟨before, after, hsplit⟩ := List.append_of_mem hy.record
      have hwrong := hy.wrong
      rw [eventsBefore_eq hsplit] at hwrong
      exact absurd hwrong ((hsplit ▸ hwell).not_wrong fault')
    | error err =>
      -- The record at which the loop stops is a first wrong one too, and there is only one.
      obtain ⟨x, fault, hx, hchron, rfl⟩ := exists_firstWrong hfold
      have hkey : x.1 = y.1 := String.le_antisymm (hx.smallest y hy.record _ hy.wrong) (hy.smallest x hx.record _ hx.wrong)
      obtain rfl := eq_of_key_eq hx.record hy.record hkey
      exact (load_of_wrong hchron (n := 0) hx.wrong).symm.trans (load_of_wrong hchron hy.wrong)

/-! ### Opening -/

theorem open?_eq (s : Store) : open? ⟨s, Faults.none⟩ =
    (s.eventRecords.foldlM load (History.empty, 0)).map fun state =>
      (⟨⟨s, Faults.none⟩, state.1, state.2⟩, .logOpened state.1.size) := by
  rw [open?, Backend.scan, Store.eventRecords, ← Store.scan_eq_filter]
  rfl

/-- What opening a store gives, without the store. -/
def opened (s : Store) : Except LogError (History × UInt64 × Notice) :=
  (open? ⟨s, Faults.none⟩).map fun r => (r.1.history, r.1.nextSequence, r.2)

theorem opened_congr {s t : Store} (h : s.eventRecords = t.eventRecords) : opened s = opened t := by
  rw [opened, opened, open?_eq, open?_eq, h]
  cases t.eventRecords.foldlM load (History.empty, 0) <;> rfl

theorem opens_iff_wellFormed {s : Store} :
    (∃ log notice, open? ⟨s, Faults.none⟩ = .ok (log, notice)) ↔ WellFormed s.eventRecords := by
  rw [open?_eq]
  cases hfold : s.eventRecords.foldlM load (History.empty, 0) with
  | error err =>
    refine iff_of_false (by rintro ⟨_, _, ⟨⟩⟩) fun hwell => ?_
    rw [foldlM_load_eq_ok_iff_wellFormed.mpr ⟨hwell, rfl, rfl⟩] at hfold
    cases hfold
  | ok state => exact iff_of_true ⟨_, _, rfl⟩ (foldlM_load_eq_ok_iff_wellFormed.mp hfold).1

theorem values_of_open? {s : Store} {log : Log} {notice : Notice} (h : open? ⟨s, Faults.none⟩ = .ok (log, notice)) :
    s.eventRecords.map (fun x => Event.decode? x.2) = log.history.events.toList.map some := by
  rw [open?_eq] at h
  cases hfold : s.eventRecords.foldlM load (History.empty, 0) with
  | error err =>
    rw [hfold] at h
    cases h
  | ok state =>
    obtain ⟨hwell, hstate, -⟩ := foldlM_load_eq_ok_iff_wellFormed.mp hfold
    rw [hfold] at h
    cases h
    exact map_decode?_eq_iff.mpr ⟨hwell.decodable, by rw [hstate, events_ofList]⟩

theorem open?_eq_error_iff {s : Store} {err : LogError} : open? ⟨s, Faults.none⟩ = .error err ↔
    ∃ x fault, FirstWrong s x fault ∧ err = .corrupt x.1 fault := by
  rw [open?_eq, ← foldlM_load_eq_error_iff]
  cases s.eventRecords.foldlM load (History.empty, 0) <;> simp [Except.map]

/-- A store that does not fail opens just when its event records are well formed, and the log then has the events
    that the values of these records hold, in the order of the keys. Otherwise the wrong record with the smallest key
    is blamed, for the first thing that is wrong with it. Other entries do not matter. -/
theorem opening_blames_first_wrong (s : Store) :
    ((∃ log notice, open? ⟨s, Faults.none⟩ = .ok (log, notice)) ↔ WellFormed s.eventRecords) ∧
      (∀ log notice, open? ⟨s, Faults.none⟩ = .ok (log, notice) →
        s.eventRecords.map (fun x => Event.decode? x.2) = log.history.events.toList.map some) ∧
      (∀ err, open? ⟨s, Faults.none⟩ = .error err ↔ ∃ x fault, FirstWrong s x fault ∧ err = .corrupt x.1 fault) ∧
      ∀ t : Store, t.eventRecords = s.eventRecords → opened t = opened s :=
  ⟨opens_iff_wellFormed, fun _ _ => values_of_open?, fun _ => open?_eq_error_iff, fun _ => opened_congr⟩

/-- A store with a record that is well formed, one without an event, one without a number, and another entry. -/
def brokenStore : Store :=
  ⟨[("ad_event/1", (epochView "ad").encode), ("ad_event/2", "broken".toUTF8), ("ad_event/x", "broken".toUTF8),
    ("profile", "broken".toUTF8)], by decide⟩

/-- The record without an event is blamed. -/
theorem broken_store_blamed_at_second_record :
    open? ⟨brokenStore, Faults.none⟩ = .error (.corrupt "ad_event/2" .undecodable) := by
  have hrecords : brokenStore.eventRecords = [] ++ ("ad_event/1", (epochView "ad").encode) ::
      [("ad_event/2", "broken".toUTF8), ("ad_event/x", "broken".toUTF8)] := rfl
  have hvalue : Event.decode? "broken".toUTF8 = none := by
    rw [Event.decode?, Json.ofBytes?_toUTF8]
    rfl
  have hone : sequence? "ad_event/1" = some 1 := by decide
  have htwo : sequence? "ad_event/2" = some 2 := by decide
  have hfirst : WellFormed ([] ++ [("ad_event/1", (epochView "ad").encode)]) :=
    wellFormed_singleton hone (Event.decode?_encode (epochView "ad"))
  refine ((opening_blames_first_wrong brokenStore).2.2.1 _).mpr ⟨("ad_event/2", "broken".toUTF8), .undecodable, ?_, rfl⟩
  refine ⟨by simp [hrecords], .undecodable (numbered_iff.mpr ⟨2, htwo⟩) hvalue, fun y hy other hwrong => ?_⟩
  rw [hrecords, List.nil_append] at hy
  rcases List.mem_cons.mp hy with rfl | hy
  · rw [eventsBefore_eq hrecords] at hwrong
    exact absurd hwrong (hfirst.not_wrong other)
  · rcases List.mem_cons.mp hy with rfl | hy
    · exact String.le_refl _
    · rw [List.mem_singleton.mp hy]
      decide

end Log
end AdAdmission
