import Mathlib
import AdAdmission.Proofs.Delivery.Intervals
import AdAdmission.Proofs.Delivery.Lockstep
import AdAdmission.Proofs.Log.Recovery

/-! Clearing the history. A reset that goes through leaves of the log only the entries of the store outside
    the event records, and answers depend on nothing else but the rules and the clock. So whatever two
    desks recorded before, from then on nobody can tell them apart, nor from one that was opened anew. -/

namespace AdAdmission
namespace Desk

/-! ### What can be seen of a run -/

/-- The exchanges of a run, and at its end the number of events, the ads that it showed, the signals that it
    reported, and the entries of the store. -/
structure View where
  exchanges : List Exchange
  size : Nat
  shown : List Candidate
  reported : List Signal
  entries : List Entry

/-- What can be seen of a run at a desk. What it showed and reported before the run is left out. -/
def view (d : Desk) (actions : List Action) : View where
  exchanges := d.exchanges actions
  size := (d.run actions).log.size
  shown := (d.run actions).shown.drop d.shown.length
  reported := (d.run actions).reported.drop d.reported.length
  entries := (d.run actions).log.backend.store.entries

theorem view_eq (d : Desk) (actions : List Action) : d.view actions =
    ⟨d.exchanges actions, (d.run actions).log.size, (d.exchanges actions).filterMap Exchange.delivered?,
      ((d.exchanges actions).filterMap Exchange.delivered?).filterMap Candidate.signal?,
      (d.run actions).log.backend.store.entries⟩ := by
  have h := displays_run d actions
  rw [view, h.shown, h.reported_eq, List.drop_left, List.drop_left]

theorem Alike.view {d₁ d₂ : Desk} (h : Alike d₁ d₂) (actions : List Action) : d₁.view actions = d₂.view actions := by
  rw [view_eq, view_eq, h.exchanges, (h.run actions).log]

/-! ### What a reset leaves -/

/-- The desks have the same rules, clock and failures of the store, and the same entries of the store outside
    the event records. -/
structure SameSetting (d₁ d₂ : Desk) : Prop where
  chain : d₁.chain = d₂.chain
  now : d₁.now = d₂.now
  faults : d₁.log.backend.faults = d₂.log.backend.faults
  outside : d₁.log.backend.store.outside Log.keyStem = d₂.log.backend.store.outside Log.keyStem

theorem resetHistory_ok_iff {d : Desk} : d.resetHistory.answer = .ok () ↔ d.log.backend.faults.clear = none := by
  cases hf : d.log.backend.faults.clear <;> simp [resetHistory, Log.reset, Backend.clear, hf]

/-- A reset that goes through leaves a log without events, over a store with just the entries that are no
    event records. -/
theorem log_resetHistory {d : Desk} (h : d.resetHistory.answer = .ok ()) {store : Store}
    (hstore : store.entries = d.log.backend.store.outside Log.keyStem) :
    d.resetHistory.desk = { d with log := ⟨⟨store, d.log.backend.faults⟩, History.empty, 0⟩ } := by
  have hcleared : store = d.log.backend.store.clear Log.keyStem := Store.eq_of_entries_eq hstore
  have hend := removal_resetHistory d
  generalize d.resetHistory = r at hend h ⊢
  cases hend with
  | refused => cases h
  | removed hr =>
    obtain ⟨-, rfl, -⟩ := Log.reset_eq_ok_iff.mp hr
    rw [hcleared]

theorem SameSetting.alike_resetHistory {d₁ d₂ : Desk} (h : SameSetting d₁ d₂) (h₁ : d₁.resetHistory.answer = .ok ())
    (h₂ : d₂.resetHistory.answer = .ok ()) : Alike d₁.resetHistory.desk d₂.resetHistory.desk := by
  have hstore : (d₁.log.backend.store.clear Log.keyStem).entries = d₁.log.backend.store.outside Log.keyStem := rfl
  rw [log_resetHistory h₁ hstore, log_resetHistory h₂ (hstore.trans h.outside)]
  exact ⟨h.chain, by rw [h.faults], h.now⟩

/-- Desks that differ in their histories and in their event records alone cannot be told apart once a reset
    went through: it goes through at both, and every run after it is seen alike at both. It is seen so as
    well at a desk that is opened on the remaining entries of the store. -/
theorem reset_leaves_no_trace {d₁ d₂ : Desk} (h : SameSetting d₁ d₂) (hreset : d₁.resetHistory.answer = .ok ()) :
    d₂.resetHistory.answer = .ok () ∧
      (∀ actions, d₁.resetHistory.desk.view actions = d₂.resetHistory.desk.view actions) ∧
      ∀ b : Backend, b.faults.scan = none → b.store.entries = d₁.log.backend.store.outside Log.keyStem →
        ∃ log opened, Log.open? b = .ok (log, opened) ∧ ∀ fault actions, d₁.resetHistory.desk.view actions =
          ((start d₁.chain log d₁.now fault).setFaults d₁.log.backend.faults).view actions := by
  have hreset₂ : d₂.resetHistory.answer = .ok () := resetHistory_ok_iff.mpr (h.faults ▸ resetHistory_ok_iff.mp hreset)
  refine ⟨hreset₂, (h.alike_resetHistory hreset hreset₂).view, fun b hscan hstore => ?_⟩
  -- No entry that is left is an event record, so the new log starts out empty.
  have hnone : ∀ x ∈ b.store.entries, beginsWith Log.keyStem x.1 = false := fun x hx => by
    rw [hstore] at hx
    simpa using (List.mem_filter.mp hx).2
  refine ⟨_, _, Log.open?_of_scan_eq_nil hscan (Store.scan_eq_nil hnone), fun fault => ?_⟩
  rw [log_resetHistory hreset hstore]
  exact Alike.view ⟨rfl, rfl, rfl⟩

/-- A desk on an empty store, under a rule that asks for an hour between views. -/
def waitDesk : Desk := start [waitRule] Log.fresh Instant.epoch none

/-- One such desk has shown an ad and would not show it again, and the other has a click on it only. After a
    reset the ad is seen to be shown at both, and so it is at a desk on an empty store. -/
theorem shown_again_after_reset : ∃ d₁ d₂, waitDesk.run [.deliver plainCandidate] = d₁ ∧
    waitDesk.run [.confirm plainCandidate .clicked] = d₂ ∧ SameSetting d₁ d₂ ∧
      (d₁.deliver plainCandidate).answer ≠ .ok .delivered ∧
      d₁.resetHistory.answer = .ok () ∧ d₂.resetHistory.answer = .ok () ∧
      d₁.resetHistory.desk.view [.deliver plainCandidate] = d₂.resetHistory.desk.view [.deliver plainCandidate] ∧
      (d₂.resetHistory.desk.view [.deliver plainCandidate]).shown = [plainCandidate] ∧
      ∃ log opened, Log.open? ⟨Store.empty, Faults.none⟩ = .ok (log, opened) ∧
        d₁.resetHistory.desk.view [.deliver plainCandidate] =
          ((start d₁.chain log d₁.now none).setFaults d₁.log.backend.faults).view [.deliver plainCandidate] := by
  have houtside : ∀ actions, (waitDesk.run actions).log.backend.store.outside Log.keyStem = [] := outside_run _
  have hshown : (waitDesk.run [.deliver plainCandidate]).now = Instant.epoch ∧
      (waitDesk.run [.deliver plainCandidate]).log.backend.faults = Faults.none := by
    simp only [run, List.foldl_cons, List.foldl_nil, act, deliver, check_plain]
    exact ⟨rfl, rfl⟩
  have hclicked : (waitDesk.run [.confirm plainCandidate .clicked]).now = Instant.epoch ∧
      (waitDesk.run [.confirm plainCandidate .clicked]).log.backend.faults = Faults.none := by
    simp only [run, List.foldl_cons, List.foldl_nil, act, confirm, fault?_plain]
    exact ⟨rfl, rfl⟩
  -- Both runs kept the clock and the store as they were at the start, so neither is compared with the other.
  have h : SameSetting (waitDesk.run [.deliver plainCandidate]) (waitDesk.run [.confirm plainCandidate .clicked]) :=
    ⟨by rw [chain_run, chain_run], hshown.1.trans hclicked.1.symm, hshown.2.trans hclicked.2.symm,
      (houtside _).trans (houtside _).symm⟩
  have hreset : (waitDesk.run [.deliver plainCandidate]).resetHistory.answer = .ok () :=
    resetHistory_ok_iff.mpr (by rw [hshown.2]; rfl)
  obtain ⟨hreset₂, hview, hfresh⟩ := reset_leaves_no_trace h hreset
  obtain ⟨log, opened, ho, hopened⟩ := hfresh ⟨Store.empty, Faults.none⟩ rfl (houtside _).symm
  refine ⟨_, _, rfl, rfl, h, ?_, hreset, hreset₂, hview _, ?_, log, opened, ho, hopened none _⟩
  · simp only [run, List.foldl_cons, List.foldl_nil, act, deliver, check_plain]
    rintro ⟨⟩
  · simp only [view, exchanges, run, List.foldl_cons, List.foldl_nil, act, deliver, confirm, check_plain, fault?_plain]
    rfl

end Desk
end AdAdmission
