import Mathlib
import AdAdmission.Proofs.Delivery.Steps

/-! Counting of shown ads. An ad that is shown has its view recorded in the history and in the store, unless
    the clock is earlier than an event of the ad's surface that was recorded before. Then the view is
    dropped with a warning, and the ad is shown without being counted. -/

namespace AdAdmission
namespace Desk
open History

/-- The view of a candidate at the clock's instant joined the history, and the store has its record. -/
structure Counted (d d' : Desk) (c : Candidate) (events : List Event) : Prop where
  history : d'.log.history = ofList (events ++ [.record c .viewed d.now])
  stored : (Log.keyOf d.log.nextSequence, (Event.record c .viewed d.now).encode) ∈ d'.log.backend.store.entries

theorem counted_of_append {d d' : Desk} {c : Candidate} {events : List Event} (h : d.log.Holds events) {log : Log}
    {appended : Notice} (ha : d.log.append (.record c .viewed d.now) = .ok (log, appended)) (hd : d'.log = log) :
    Counted d d' c events := by
  have hholds := h.append ha
  obtain ⟨-, -, rfl, -⟩ := Log.append_eq_ok_iff.mp ha
  exact ⟨by rw [hd, hholds.history], by rw [hd]; exact Store.mem_put _ _ _⟩

/-- At a desk that was set up on an opened log, after whatever was done, a delivered candidate is shown.
    Its view is counted just when no recorded event of its surface is later than the clock; otherwise the
    log stays as it is, and a warning tells that the view was dropped and which instant it is before. -/
theorem delivered_counted_unless_late {b : Backend} {log : Log} {opened : Notice}
    (ho : Log.open? b = .ok (log, opened)) {chain : Chain} {now : Instant} {fault : Option ReportError}
    {actions : List Action} {d : Desk} (hd : (start chain log now fault).run actions = d) {c : Candidate}
    (hdel : (d.deliver c).answer = .ok .delivered) :
    (d.deliver c).desk.shown = d.shown ++ [c] ∧ ∃ events, d.log.history = ofList events ∧
      ((∀ x ∈ events, x.adKind = c.kind → x.timestamp ≤ d.now) ∧ Counted d (d.deliver c).desk c events ∨
        (∃ x ∈ events, x.adKind = c.kind ∧ d.now < x.timestamp ∧
          .viewDropped c.adIdentifier (LogError.outOfOrder c.kind d.now x.timestamp).message ∈
            (d.deliver c).notices) ∧ (d.deliver c).desk.log = d.log) := by
  obtain ⟨events, h⟩ := exists_holds_run ho chain now fault actions
  rw [hd] at h
  have hend := delivery_deliver d c
  generalize d.deliver c = r at hend hdel ⊢
  cases hend with
  | rejected => cases hdel
  | suppressed => cases hdel
  | recorded _ _ ha => exact ⟨rfl, events, h.history, Or.inl ⟨h.le_of_append ha, counted_of_append h ha rfl⟩⟩
  | dropped _ _ ha =>
    obtain ⟨x, hx, hk, rfl, hlt⟩ := h.exists_later ha
    obtain ⟨-, rfl, rfl⟩ := Log.append_outOfOrder ha
    exact ⟨rfl, events, h.history, Or.inr ⟨⟨x, hx, hk, hlt, List.mem_cons_of_mem _ List.mem_cons_self⟩, rfl⟩⟩
  | unrecorded => cases hdel

/-- The first delivery at a desk without rules. Its view is the only event, and its record has the first number. -/
theorem first_delivery_shown : ∃ log opened d, Log.open? ⟨Store.empty, Faults.none⟩ = .ok (log, opened) ∧
    (start [] log Instant.epoch none).run [] = d ∧
      (d.deliver plainCandidate).answer = .ok .delivered ∧
      (d.deliver plainCandidate).desk.shown = [plainCandidate] ∧
      (d.deliver plainCandidate).desk.log.history.events.toList = [.record plainCandidate .viewed Instant.epoch] ∧
      (Log.keyOf 0, (Event.record plainCandidate .viewed Instant.epoch).encode) ∈
        (d.deliver plainCandidate).desk.log.backend.store.entries := by
  have hdel := delivered_of_valid fault?_plain Instant.epoch none
  have hrun : (start [] Log.fresh Instant.epoch none).run [] = start [] Log.fresh Instant.epoch none := rfl
  obtain ⟨hshown, events, hevents, hcount⟩ := delivered_counted_unless_late Log.open?_empty hrun hdel
  obtain rfl : events = [] := by
    rw [← events_ofList events, ← hevents]
    rfl
  rcases hcount with ⟨-, hcounted⟩ | ⟨⟨x, hx, -⟩, -⟩
  · refine ⟨_, _, _, Log.open?_empty, hrun, hdel, hshown, ?_, hcounted.stored⟩
    rw [hcounted.history, events_ofList]
    rfl
  · cases hx

/-- After the first delivery the clock goes back, and the second is shown without being counted. -/
theorem late_delivery_uncounted : ∃ log opened d, Log.open? ⟨Store.empty, Faults.none⟩ = .ok (log, opened) ∧
    (start [] log Instant.epoch none).run [.deliver plainCandidate, .setClock Instant.earliest] = d ∧
      (d.deliver plainCandidate).answer = .ok .delivered ∧
      (d.deliver plainCandidate).desk.shown = [plainCandidate, plainCandidate] ∧
      (d.deliver plainCandidate).desk.log.size = 1 ∧
      (d.deliver plainCandidate).desk.log.backend.store.size = 1 := by
  refine ⟨_, _, _, Log.open?_empty, rfl, ?_⟩
  simp only [run, List.foldl_cons, List.foldl_nil, act, deliver, check_plain]
  exact ⟨rfl, rfl, rfl, rfl⟩

end Desk
end AdAdmission
