import Mathlib
import AdAdmission.Proofs.Delivery.Exchanges
import AdAdmission.Proofs.Log.Recovery

/-! The history of a run, told from its answers. A delivered ad stands in the history unless a later event of
    its surface stood there before, a confirmation that was taken stands there, and nothing else does since
    the last reset that went through. So every recorded event is one of a valid candidate. -/

namespace AdAdmission

/-! ### What an answer tells -/

namespace Exchange

/-- The recorded events after an exchange, told from those before and the answer. -/
def retell (events : List Event) (x : Exchange) : List Event :=
  match x.action, x.answer with
  | .deliver c, .delivery (.ok .delivered) =>
    if ∀ e ∈ events, e.adKind = c.kind → e.timestamp ≤ x.now then
      events ++ [⟨c.kind, .viewed, c.adIdentifier, c.creativeSetId, c.segment, x.now⟩]
    else events
  | .confirm c confirmation, .confirmation (.ok _) =>
    events ++ [⟨c.kind, confirmation, c.adIdentifier, c.creativeSetId, c.segment, x.now⟩]
  | .reset, .reset (.ok _) => []
  | _, _ => events

/-- The exchange of a delivery that showed the candidate. -/
def delivered (now : Instant) (c : Candidate) : Exchange := ⟨now, .deliver c, .delivery (.ok .delivered)⟩

theorem retell_delivered {events : List Event} {now : Instant} {c : Candidate}
    (h : ∀ e ∈ events, e.adKind = c.kind → e.timestamp ≤ now) :
    (delivered now c).retell events = events ++ [.record c .viewed now] := if_pos h

theorem retell_delivered_late {events : List Event} {now : Instant} {c : Candidate} {e : Event} (he : e ∈ events)
    (hk : e.adKind = c.kind) (hlt : now < e.timestamp) : (delivered now c).retell events = events :=
  if_neg fun h => hlt (h e he hk)

theorem mem_retell {events : List Event} {x : Exchange} {e : Event} (h : e ∈ x.retell events) : e ∈ events ∨
    (∃ c, x.action = .deliver c ∧ x.answer = .delivery (.ok .delivered) ∧ e = .record c .viewed x.now) ∨
      ∃ c k, x.action = .confirm c k ∧ x.answer = .confirmation (.ok ()) ∧ e = .record c k x.now := by
  unfold retell at h
  split at h
  · rename_i c ha hr
    split at h
    · rcases List.mem_append.mp h with h | h
      · exact Or.inl h
      · exact Or.inr (Or.inl ⟨c, ha, hr, List.mem_singleton.mp h⟩)
    · exact Or.inl h
  · rename_i c k _ ha hr
    rcases List.mem_append.mp h with h | h
    · exact Or.inl h
    · exact Or.inr (Or.inr ⟨c, k, ha, hr, List.mem_singleton.mp h⟩)
  · cases h
  · exact Or.inl h

theorem timestamp_of_mem_retell {events : List Event} {x : Exchange} {e : Event} (h : e ∈ x.retell events) :
    e ∈ events ∨ e.timestamp = x.now := by
  rcases mem_retell h with h | ⟨c, -, -, rfl⟩ | ⟨c, k, -, -, rfl⟩
  · exact Or.inl h
  · exact Or.inr rfl
  · exact Or.inr rfl

theorem prefix_retell {x : Exchange} (h : x.answer ≠ .reset (.ok ())) (events : List Event) :
    events <+: x.retell events := by
  unfold retell
  split
  · split
    · exact List.prefix_append _ _
    · exact List.prefix_refl _
  · exact List.prefix_append _ _
  · rename_i hr
    exact absurd hr h
  · exact List.prefix_refl _

/-- While no reset goes through, nothing that was recorded is lost. -/
theorem prefix_foldl_retell {exchanges : List Exchange} (h : ∀ x ∈ exchanges, x.answer ≠ .reset (.ok ()))
    (events : List Event) : events <+: exchanges.foldl retell events := by
  induction exchanges generalizing events with
  | nil => exact List.prefix_refl _
  | cons x exchanges ih =>
    obtain ⟨hx, hrest⟩ := List.forall_mem_cons.mp h
    exact (prefix_retell hx events).trans (ih hrest _)

end Exchange

/-- What holds of an event of a valid candidate. -/
structure Event.Sound (e : Event) : Prop where
  identifier : Text.isBlank e.adIdentifier = false
  segment : Text.isBlank e.segment = false
  supported : e.adKind.supports e.confirmation = true

theorem Event.sound_record {c : Candidate} (h : c.fault? = none) {confirmation : ConfirmationKind}
    (hs : c.kind.supports confirmation = true) (now : Instant) : (record c confirmation now).Sound :=
  ⟨Candidate.adIdentifier_not_blank h, Candidate.segment_not_blank h, hs⟩

namespace Desk
variable {d : Desk} {events : List Event}

/-! ### Single actions -/

theorem holds_deliver (h : d.log.Holds events) (c : Candidate) : (d.deliver c).desk.log.Holds
    (Exchange.retell events ⟨d.now, .deliver c, .delivery (d.deliver c).answer⟩) := by
  have hend := delivery_deliver d c
  generalize d.deliver c = r at hend ⊢
  cases hend with
  | rejected => exact h
  | suppressed => exact h
  | recorded _ _ ha =>
    have hadd : (Exchange.delivered d.now c).retell events = events ++ [.record c .viewed d.now] :=
      Exchange.retell_delivered (h.le_of_append ha)
    change Log.Holds _ ((Exchange.delivered d.now c).retell events)
    rw [hadd]
    exact h.append ha
  | dropped _ _ ha =>
    obtain ⟨x, hx, hk, rfl, hlt⟩ := h.exists_later ha
    have hkeep : (Exchange.delivered d.now c).retell events = events := Exchange.retell_delivered_late hx hk hlt
    change Log.Holds _ ((Exchange.delivered d.now c).retell events)
    rw [hkeep]
    exact h
  | unrecorded => exact h

theorem holds_confirm (h : d.log.Holds events) (c : Candidate) (confirmation : ConfirmationKind) :
    (d.confirm c confirmation).desk.log.Holds
      (Exchange.retell events ⟨d.now, .confirm c confirmation, .confirmation (d.confirm c confirmation).answer⟩) := by
  have hend := confirmation_confirm d c confirmation
  generalize d.confirm c confirmation = r at hend ⊢
  cases hend with
  | invalid => exact h
  | unsupported => exact h
  | unrecorded => exact h
  | recorded _ _ ha => exact h.append ha

theorem holds_resetHistory (h : d.log.Holds events) : d.resetHistory.desk.log.Holds
    (Exchange.retell events ⟨d.now, .reset, .reset d.resetHistory.answer⟩) := by
  have hend := removal_resetHistory d
  generalize d.resetHistory = r at hend ⊢
  cases hend with
  | refused => exact h
  | removed hr => exact Log.Holds.reset hr

/-- After an action the history is the one that its answer tells of. -/
theorem holds_act (h : d.log.Holds events) (a : Action) :
    (d.act a).desk.log.Holds (Exchange.retell events ⟨d.now, a, (d.act a).answer⟩) := by
  cases a with
  | deliver c => exact holds_deliver h c
  | confirm c confirmation => exact holds_confirm h c confirmation
  | reset => exact holds_resetHistory h
  | advance => exact h
  | setClock => exact h
  | setFaults => exact ⟨h.history, h.chronological⟩

theorem admitted_of_delivered {c : Candidate} (h : (d.deliver c).answer = .ok .delivered) :
    c.fault? = none ∧ d.chain.evaluate c d.log.history d.now = .allowed := by
  have hend := delivery_deliver d c
  generalize d.deliver c = r at hend h
  cases hend with
  | rejected => cases h
  | suppressed => cases h
  | recorded hc hv => exact ⟨Candidate.fault?_of_check hc, hv⟩
  | dropped hc hv => exact ⟨Candidate.fault?_of_check hc, hv⟩
  | unrecorded => cases h

theorem valid_of_confirmed {c : Candidate} {confirmation : ConfirmationKind}
    (h : (d.confirm c confirmation).answer = .ok ()) : c.fault? = none ∧ c.kind.supports confirmation = true := by
  have hend := confirmation_confirm d c confirmation
  generalize d.confirm c confirmation = r at hend h
  cases hend with
  | invalid => cases h
  | unsupported => cases h
  | unrecorded => cases h
  | recorded hc hs => exact ⟨hc, hs⟩

theorem sound_act (h : ∀ e ∈ events, e.Sound) (a : Action) :
    ∀ e ∈ Exchange.retell events ⟨d.now, a, (d.act a).answer⟩, e.Sound := by
  intro e he
  rcases Exchange.mem_retell he with he | ⟨c, ha, hr, rfl⟩ | ⟨c, k, ha, hr, rfl⟩
  · exact h e he
  · obtain rfl : a = .deliver c := ha
    obtain ⟨hc, -⟩ := admitted_of_delivered (Answer.delivery.inj hr)
    exact Event.sound_record hc (AdKind.supports_viewed _) _
  · obtain rfl : a = .confirm c k := ha
    obtain ⟨hc, hs⟩ := valid_of_confirmed (Answer.confirmation.inj hr)
    exact Event.sound_record hc hs _

/-! ### Runs -/

theorem holds_run (h : d.log.Holds events) (actions : List Action) :
    (d.run actions).log.Holds ((d.exchanges actions).foldl Exchange.retell events) := by
  induction actions generalizing d events with
  | nil => exact h
  | cons a actions ih => exact ih (holds_act h a)

theorem sound_run (h : ∀ e ∈ events, e.Sound) (actions : List Action) :
    ∀ e ∈ (d.exchanges actions).foldl Exchange.retell events, e.Sound := by
  induction actions generalizing d events with
  | nil => exact h
  | cons a actions ih => exact ih (sound_act h a)

/-- At a desk that was set up on a store without event records, whatever is done, the recorded events are
    those that the answers tell of, in their order, and each of them is one of a valid candidate. -/
theorem history_told_by_answers {b : Backend} (hf : b.faults.scan = none)
    (hempty : ∀ x ∈ b.store.entries, beginsWith Log.keyStem x.1 = false) :
    ∃ log opened, Log.open? b = .ok (log, opened) ∧ ∀ chain now fault actions d,
      (start chain log now fault).run actions = d →
        d.log.history.events.toList =
            ((start chain log now fault).exchanges actions).foldl Exchange.retell [] ∧
          ∀ e ∈ d.log.history.events.toList, e.Sound := by
  refine ⟨_, _, Log.open?_of_scan_eq_nil hf (Store.scan_eq_nil hempty), ?_⟩
  rintro chain now fault actions d rfl
  have hstart : (start chain ⟨b, History.empty, 0⟩ now fault).log.Holds [] := ⟨rfl, List.Pairwise.nil⟩
  have hholds := holds_run hstart actions
  rw [hholds.history, History.events_ofList]
  exact ⟨rfl, sound_run (fun e he => by cases he) actions⟩

/-- An ad is shown and clicked. Then the clock goes back, the ad is shown once more, and a second click is
    refused. -/
theorem history_of_two_showings : ∃ log opened d, Log.open? ⟨Store.empty, Faults.none⟩ = .ok (log, opened) ∧
    (start [] log Instant.epoch none).run [.deliver plainCandidate, .confirm plainCandidate .clicked,
      .setClock Instant.earliest, .deliver plainCandidate, .confirm plainCandidate .clicked] = d ∧
      d.shown = [plainCandidate, plainCandidate] ∧ d.log.history.events.toList =
        [.record plainCandidate .viewed Instant.epoch, .record plainCandidate .clicked Instant.epoch] := by
  obtain ⟨log, opened, ho, h⟩ := history_told_by_answers (b := ⟨Store.empty, Faults.none⟩) rfl fun x hx => by cases hx
  cases ho.symm.trans Log.open?_empty
  refine ⟨_, _, _, ho, rfl, ?_, (h _ _ _ _ _ rfl).1.trans ?_⟩
  · simp only [run, List.foldl_cons, List.foldl_nil, act, deliver, confirm, check_plain, fault?_plain]
    rfl
  · simp only [exchanges, act, deliver, confirm, check_plain, fault?_plain]
    rfl

end Desk
end AdAdmission
