import Mathlib
import AdAdmission.Delivery
import AdAdmission.Proofs.Log.Run

/-! What can happen at a desk. A delivery comes to one of five ends, and only two of them show the ad: its
    view was recorded, or it was dropped because a later event of its surface is recorded. A confirmation
    is stopped at one of three points, or recorded. An action changes the log by at most one operation,
    and the rules never change. -/

namespace AdAdmission

theorem Candidate.check_of_fault? {c : Candidate} (h : c.fault? = none) :
    c.check = .ok ⟨c.segment, segment_not_blank h⟩ := by
  rw [check, h]
  exact checkedSegment_of_not_blank _

namespace Desk

/-! ### Deliveries -/

/-- What a delivery can come to. -/
inductive Delivery (d : Desk) (c : Candidate) : Result (Except DeliveryError Outcome) → Prop where
  | rejected {e : CandidateError} (h : c.check = .error e) :
    Delivery d c ⟨.ok (.rejected e), d, [.candidateRejected c.adIdentifier e.message]⟩
  | suppressed {segment : Segment} {denial : Denial} (h : c.check = .ok segment)
    (hv : d.chain.evaluate c d.log.history d.now = .denied denial) :
    Delivery d c ⟨.ok (.suppressed denial), d, [d.chain.notice c (.denied denial)]⟩
  | recorded {segment : Segment} {log : Log} {appended : Notice} (h : c.check = .ok segment)
    (hv : d.chain.evaluate c d.log.history d.now = .allowed)
    (ha : d.log.append (.record c .viewed d.now) = .ok (log, appended)) :
    Delivery d c ⟨.ok .delivered, ({ d with log }.display c segment).1,
      d.chain.notice c .allowed :: appended :: ({ d with log }.display c segment).2⟩
  | dropped {segment : Segment} {kind : AdKind} {timestamp last : Instant} (h : c.check = .ok segment)
    (hv : d.chain.evaluate c d.log.history d.now = .allowed)
    (ha : d.log.append (.record c .viewed d.now) = .error (.outOfOrder kind timestamp last)) :
    Delivery d c ⟨.ok .delivered, (d.display c segment).1,
      d.chain.notice c .allowed ::
        .viewDropped c.adIdentifier (LogError.outOfOrder kind timestamp last).message ::
        (d.display c segment).2⟩
  | unrecorded {segment : Segment} {e : LogError} (h : c.check = .ok segment)
    (hv : d.chain.evaluate c d.log.history d.now = .allowed)
    (ha : d.log.append (.record c .viewed d.now) = .error e)
    (he : ∀ kind timestamp last, e ≠ .outOfOrder kind timestamp last) :
    Delivery d c
      ⟨.error (.log e), d, [d.chain.notice c .allowed, .viewNotRecorded c.adIdentifier e.message]⟩

theorem delivery_deliver (d : Desk) (c : Candidate) : Delivery d c (d.deliver c) := by
  rw [deliver]
  cases hc : c.check with
  | error e => exact .rejected hc
  | ok segment =>
    dsimp only
    cases hv : d.chain.evaluate c d.log.history d.now with
    | denied denial => exact .suppressed hc hv
    | allowed =>
      dsimp only
      rw [Event.build?_viewed]
      dsimp only
      cases ha : d.log.append (.record c .viewed d.now) with
      | ok r => exact .recorded hc hv ha
      | error e =>
        cases e with
        | outOfOrder => exact .dropped hc hv ha
        | _ => exact .unrecorded hc hv ha fun _ _ _ h => by cases h

theorem now_deliver (d : Desk) (c : Candidate) : (d.deliver c).desk.now = d.now := by
  have h := delivery_deliver d c
  generalize d.deliver c = r at h ⊢
  cases h <;> rfl

/-! ### Confirmations and resets -/

/-- What a confirmation can come to. -/
inductive Confirmation (d : Desk) (c : Candidate) (confirmation : ConfirmationKind) :
    Result (Except DeliveryError Unit) → Prop where
  | invalid {e : CandidateError} (h : c.fault? = some e) :
    Confirmation d c confirmation ⟨.error (.invalid e), d, []⟩
  | unsupported (h : c.fault? = none) (hs : c.kind.supports confirmation = false) :
    Confirmation d c confirmation ⟨.error (.unsupported c.kind confirmation), d, []⟩
  | unrecorded {e : LogError} (h : c.fault? = none) (hs : c.kind.supports confirmation = true)
    (ha : d.log.append (.record c confirmation d.now) = .error e) :
    Confirmation d c confirmation ⟨.error (.log e), d, []⟩
  | recorded {log : Log} {appended : Notice} (h : c.fault? = none) (hs : c.kind.supports confirmation = true)
    (ha : d.log.append (.record c confirmation d.now) = .ok (log, appended)) :
    Confirmation d c confirmation
      ⟨.ok (), { d with log }, [appended, .confirmationRecorded c.adIdentifier c.kind confirmation]⟩

theorem confirmation_confirm (d : Desk) (c : Candidate) (confirmation : ConfirmationKind) :
    Confirmation d c confirmation (d.confirm c confirmation) := by
  rw [confirm]
  cases hc : c.fault? with
  | some e => exact .invalid hc
  | none =>
    dsimp only
    rw [Event.build?_kind]
    cases hs : c.kind.supports confirmation with
    | false => exact .unsupported hc hs
    | true =>
      rw [if_pos rfl]
      dsimp only
      cases ha : d.log.append (.record c confirmation d.now) with
      | error e => exact .unrecorded hc hs ha
      | ok r => exact .recorded hc hs ha

/-- What a reset can come to. -/
inductive Removal (d : Desk) : Result (Except DeliveryError Unit) → Prop where
  | refused {e : LogError} (hr : d.log.reset = .error e) : Removal d ⟨.error (.log e), d, []⟩
  | removed {log : Log} {removed : Notice} (hr : d.log.reset = .ok (log, removed)) :
    Removal d ⟨.ok (), { d with log }, [removed]⟩

theorem removal_resetHistory (d : Desk) : Removal d d.resetHistory := by
  rw [resetHistory]
  cases hr : d.log.reset with
  | error e => exact .refused hr
  | ok r => exact .removed hr

/-! ### Actions -/

/-- What an action can do to a desk. -/
inductive Move (d : Desk) : Action → Desk → Prop where
  | shown {c : Candidate} {segment : Segment} {log : Log} {appended : Notice} (h : c.check = .ok segment)
    (hv : d.chain.evaluate c d.log.history d.now = .allowed)
    (ha : d.log.append (.record c .viewed d.now) = .ok (log, appended)) :
    Move d (.deliver c)
      { d with log, shown := d.shown ++ [c], reported := d.reported ++ [.impression c.kind segment] }
  | dropped {c : Candidate} {segment : Segment} {kind : AdKind} {timestamp last : Instant}
    (h : c.check = .ok segment) (hv : d.chain.evaluate c d.log.history d.now = .allowed)
    (ha : d.log.append (.record c .viewed d.now) = .error (.outOfOrder kind timestamp last)) :
    Move d (.deliver c)
      { d with shown := d.shown ++ [c], reported := d.reported ++ [.impression c.kind segment] }
  | confirmed {c : Candidate} {confirmation : ConfirmationKind} {log : Log} {appended : Notice}
    (ha : d.log.append (.record c confirmation d.now) = .ok (log, appended)) :
    Move d (.confirm c confirmation) { d with log }
  | removed {log : Log} {removed : Notice} (hr : d.log.reset = .ok (log, removed)) : Move d .reset { d with log }
  | refused (a : Action) : Move d a d
  | advance (span : Span) : Move d (.advance span) (d.advance span)
  | setClock (now : Instant) : Move d (.setClock now) (d.setClock now)
  | setFaults (faults : Faults) : Move d (.setFaults faults) (d.setFaults faults)

theorem move_act (d : Desk) (a : Action) : Move d a (d.act a).desk := by
  cases a with
  | deliver c =>
    have h := delivery_deliver d c
    change Move d (.deliver c) (d.deliver c).desk
    generalize d.deliver c = r at h ⊢
    cases h with
    | rejected => exact .refused _
    | suppressed => exact .refused _
    | recorded hc hv ha => exact .shown hc hv ha
    | dropped hc hv ha => exact .dropped hc hv ha
    | unrecorded => exact .refused _
  | confirm c confirmation =>
    have h := confirmation_confirm d c confirmation
    change Move d (.confirm c confirmation) (d.confirm c confirmation).desk
    generalize d.confirm c confirmation = r at h ⊢
    cases h with
    | invalid => exact .refused _
    | unsupported => exact .refused _
    | unrecorded => exact .refused _
    | recorded _ _ ha => exact .confirmed ha
  | reset =>
    have h := removal_resetHistory d
    change Move d .reset d.resetHistory.desk
    generalize d.resetHistory = r at h ⊢
    cases h with
    | refused => exact .refused _
    | removed hr => exact .removed hr
  | advance span => exact .advance span
  | setClock now => exact .setClock now
  | setFaults faults => exact .setFaults faults

/-- What every action keeps, a run keeps. -/
theorem run_induction {p : Desk → Prop} (hmove : ∀ {d a d'}, Move d a d' → p d → p d') {d : Desk} (h : p d)
    (actions : List Action) : p (d.run actions) := by
  induction actions generalizing d with
  | nil => exact h
  | cons a actions ih => exact ih (hmove (move_act d a) h)

theorem Move.chain {d d' : Desk} {a : Action} (hm : Move d a d') : d'.chain = d.chain := by
  cases hm <;> rfl

theorem chain_run (d : Desk) (actions : List Action) : (d.run actions).chain = d.chain :=
  run_induction (p := fun d' => d'.chain = d.chain) (fun hm h => hm.chain.trans h) rfl actions

/-! ### The log of a desk -/

/-- An action is at most one operation of the log. -/
theorem Move.step {d d' : Desk} {a : Action} (hm : Move d a d') (events : List Event) :
    ∃ op events', Log.Step d.log events op d'.log events' := by
  cases hm with
  | shown _ _ ha => exact ⟨_, _, .appended ha⟩
  | dropped => exact ⟨.reset, _, .failed _⟩
  | confirmed ha => exact ⟨_, _, .appended ha⟩
  | removed hr => exact ⟨_, _, .removed hr⟩
  | refused => exact ⟨.reset, _, .failed _⟩
  | advance => exact ⟨.reset, _, .failed _⟩
  | setClock => exact ⟨.reset, _, .failed _⟩
  | setFaults faults => exact ⟨_, _, .setFaults faults⟩

/-- Whatever is done at a desk, its log stays one that operations on an opened log lead to. -/
theorem reachable_run {d : Desk} (h : d.log.Reachable) (actions : List Action) : (d.run actions).log.Reachable := by
  refine run_induction (p := fun d => d.log.Reachable) (fun hm h => ?_) h actions
  obtain ⟨op, events, hs⟩ := hm.step []
  exact h.step hs

/-- The log of a desk that was set up on an opened log has a chronological history, whatever was done. -/
theorem exists_holds_run {b : Backend} {log : Log} {opened : Notice} (ho : Log.open? b = .ok (log, opened))
    (chain : Chain) (now : Instant) (fault : Option ReportError) (actions : List Action) :
    ∃ events, ((start chain log now fault).run actions).log.Holds events := by
  have hstart : (start chain log now fault).log.Reachable := Log.reachable_of_open? ho
  exact (reachable_run hstart actions).exists_holds

/-- The entries of the store that are no event records stay as they are, whatever is done. -/
theorem outside_run (d : Desk) (actions : List Action) : (d.run actions).log.backend.store.outside Log.keyStem =
    d.log.backend.store.outside Log.keyStem := by
  refine run_induction (p := fun d' => d'.log.backend.store.outside Log.keyStem = _) (fun hm h => ?_) rfl actions
  obtain ⟨op, events, hs⟩ := hm.step []
  exact (Log.outside_step hs).trans h

/-! ### First deliveries -/

/-- Where there are no rules and nothing was recorded, every valid candidate is delivered. -/
theorem delivered_of_valid {c : Candidate} (h : c.fault? = none) (now : Instant) (fault : Option ReportError) :
    ((start [] Log.fresh now fault).deliver c).answer = .ok .delivered := by
  have hend := delivery_deliver (start [] Log.fresh now fault) c
  generalize (start [] Log.fresh now fault).deliver c = r at hend ⊢
  cases hend with
  | rejected hc => cases (Candidate.check_of_fault? h).symm.trans hc
  | suppressed _ hv => cases hv
  | recorded => rfl
  | dropped => rfl
  | unrecorded _ _ ha => cases ha

/-! ### A plain candidate -/

/-- A candidate without a fault. -/
def plainCandidate : Candidate := ⟨"ad", "set", "news", .notification "title" "body" "https://[::1]/"⟩

theorem scheme_plain : Url.scheme "https://[::1]/" = .ok "https" := by cbv

theorem fault?_plain : plainCandidate.fault? = none := by
  have hurl : Candidate.urlFieldFault? .notification ("target_url", "https://[::1]/") = none := by
    rw [Candidate.urlFieldFault?, Candidate.urlFault?, scheme_plain]
    rfl
  have htexts : plainCandidate.creative.textFields.findSome? (Candidate.textFault? .notification) = none := by decide
  have hurls : plainCandidate.creative.urlFields = [("target_url", "https://[::1]/")] := by decide
  rw [Candidate.fault?, if_neg (by decide), if_neg (by decide), Candidate.creativeFault?, hurls,
    List.findSome?_singleton]
  exact (congrArg₂ Option.or htexts hurl).trans rfl

theorem check_plain : plainCandidate.check = .ok ⟨"news", by decide⟩ :=
  Candidate.check_of_fault? fault?_plain

end Desk
end AdAdmission
