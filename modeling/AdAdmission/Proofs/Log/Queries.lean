import Mathlib
import AdAdmission.Proofs.Log.Run

/-! Counts of recorded events. The events of a surface are searched from the first one that is not too early,
    those of an ad or a campaign one by one, and a count over all surfaces adds up one search for each. On
    every log that operations lead to, each count is the number of events that a reading of the whole list
    would find, so a new event adds one to the counts it belongs to and nothing to the others. -/

namespace AdAdmission

/-- What can be asked: how many events there are from an instant on, of a surface, an ad or a campaign, and of a
    confirmation where one is given. -/
inductive Query where
  | surface (kind : Option AdKind) (confirmation : Option ConfirmationKind) (since : Instant)
  | ad (adIdentifier : String) (confirmation : Option ConfirmationKind) (since : Instant)
  | creativeSet (creativeSetId : String) (confirmation : Option ConfirmationKind) (since : Instant)

/-- The event is one of those asked for. -/
def Query.Matches : Query → Event → Prop
  | surface kind confirmation since, e =>
    (∀ k ∈ kind, e.adKind = k) ∧ (∀ k ∈ confirmation, e.confirmation = k) ∧ since ≤ e.timestamp
  | ad adIdentifier confirmation since, e =>
    e.adIdentifier = adIdentifier ∧ (∀ k ∈ confirmation, e.confirmation = k) ∧ since ≤ e.timestamp
  | creativeSet creativeSetId confirmation since, e =>
    e.creativeSetId = creativeSetId ∧ (∀ k ∈ confirmation, e.confirmation = k) ∧ since ≤ e.timestamp

instance (q : Query) (e : Event) : Decidable (q.Matches e) :=
  match q with
  | .surface .. => inferInstanceAs (Decidable (_ ∧ _))
  | .ad .. => inferInstanceAs (Decidable (_ ∧ _))
  | .creativeSet .. => inferInstanceAs (Decidable (_ ∧ _))

namespace History

/-- What a history answers. -/
def answer (h : History) : Query → Nat
  | .surface kind confirmation since => h.countSince kind confirmation since
  | .ad adIdentifier confirmation since => h.countForAdSince adIdentifier confirmation since
  | .creativeSet creativeSetId confirmation since => h.countForSetSince creativeSetId confirmation since

theorem since_isOf_iff {e : Event} {confirmation : Option ConfirmationKind} {since : Instant} :
    (since ≤ e.timestamp && e.isOf none confirmation) = true ↔
      (∀ k ∈ confirmation, e.confirmation = k) ∧ since ≤ e.timestamp := by
  rw [Bool.and_eq_true, decide_eq_true_eq, Event.isOf_iff_forall, and_comm, and_congr_left_iff]
  exact fun _ => and_iff_right fun k hk => absurd hk (Option.not_mem_none k)

/-- The answer is the number of events of the list that are asked for. -/
theorem answer_ofList {l : List Event} (h : Chronological l) (q : Query) :
    (ofList l).answer q = l.countP fun e => q.Matches e := by
  cases q with
  | surface kind confirmation since =>
    rw [answer, countSince_ofList h]
    refine List.countP_congr fun e _ => ?_
    rw [Bool.and_eq_true, decide_eq_true_eq, decide_eq_true_eq, Event.isOf_iff_forall, and_comm, and_assoc]
    exact Iff.rfl
  | ad adIdentifier confirmation since =>
    rw [answer, countForAdSince_ofList]
    refine List.countP_congr fun e _ => ?_
    rw [Bool.and_eq_true, since_isOf_iff, beq_iff_eq, decide_eq_true_eq, and_comm]
    exact Iff.rfl
  | creativeSet creativeSetId confirmation since =>
    rw [answer, countForSetSince_ofList]
    refine List.countP_congr fun e _ => ?_
    rw [Bool.and_eq_true, since_isOf_iff, beq_iff_eq, decide_eq_true_eq, and_comm]
    exact Iff.rfl

theorem answer_concat {l : List Event} {e : Event} (h : Chronological (l ++ [e])) (q : Query) :
    (ofList (l ++ [e])).answer q = (ofList l).answer q + if q.Matches e then 1 else 0 := by
  rw [answer_ofList h, answer_ofList (chronological_append.mp h).1, List.countP_append, List.countP_singleton]
  simp only [decide_eq_true_eq]

end History

namespace Log
open History

theorem Holds.answer_append {log log' : Log} {events : List Event} (h : log.Holds events) {e : Event}
    {notice : Notice} (ha : log.append e = .ok (log', notice)) (q : Query) :
    log'.history.answer q = log.history.answer q + if q.Matches e then 1 else 0 := by
  have h' := h.append ha
  rw [h'.history, h.history, answer_concat h'.chronological]

/-- On a log that was opened on some store, after whatever was done to it, every count is the number of recorded
    events that are asked for, and an event that is appended adds one to the counts that ask for it. -/
theorem counts_equal_scan {log : Log} (h : log.Reachable) :
    (∀ q, log.history.answer q = log.history.events.toList.countP fun e => q.Matches e) ∧
      ∀ e log' notice, log.append e = .ok (log', notice) → ∀ q,
        log'.history.answer q = log.history.answer q + if q.Matches e then 1 else 0 := by
  obtain ⟨events, hholds⟩ := h.exists_holds
  refine ⟨fun q => ?_, fun e log' notice ha q => hholds.answer_append ha q⟩
  rw [hholds.history, events_ofList, answer_ofList hholds.chronological]

/-- A view of promoted content at the earliest instant. -/
def earliestView : Event := ⟨.promotedContent, .viewed, "other", "campaign", "news", Instant.earliest⟩

/-- A view is recorded, and after it an earlier one of another surface. The search for the views of 1970 passes over
    that one, and one more view adds to their number but not to that of the other ad's events. -/
theorem counts_of_two_surfaces : ∃ log log' notice,
    fresh.performAll [.append (epochView "ad"), .append earliestView] = log ∧
      log.append (epochView "ad") = .ok (log', notice) ∧
      log.history.answer (.surface none (some .viewed) Instant.epoch) = 1 ∧
      log'.history.answer (.surface none (some .viewed) Instant.epoch) = 2 ∧
      log'.history.answer (.ad "other" none Instant.earliest) = 1 := by
  have h := counts_equal_scan (reachable_fresh [.append (epochView "ad"), .append earliestView])
  have ha : (fresh.performAll [.append (epochView "ad"), .append earliestView]).append (epochView "ad") = .ok (_, _) :=
    rfl
  refine ⟨_, _, _, rfl, ha, ?_, ?_, ?_⟩
  · rw [h.1]
    decide
  · rw [h.2 _ _ _ ha, h.1]
    decide
  · rw [h.2 _ _ _ ha, h.1]
    decide

end Log
end AdAdmission
