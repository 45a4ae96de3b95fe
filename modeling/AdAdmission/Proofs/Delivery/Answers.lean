import Mathlib
import AdAdmission.Proofs.Delivery.Steps
import AdAdmission.Proofs.Log.Chronology

/-! What a delivery and a confirmation are answered. Of everything that may be wrong at once, the candidate is
    looked at first, then the rules or the surface, then the order of timestamps, and the store last. A
    delivery can fail only because the store cannot write: a view is an event that every surface
    supports, and one that comes too late is dropped. A confirmation never depends on the rules. -/

namespace AdAdmission

theorem Candidate.check_eq_error_iff {c : Candidate} {e : CandidateError} :
    c.check = .error e ↔ c.fault? = some e := by
  rw [check]
  cases hfault : c.fault? with
  | some e' => simp
  | none => simp [checkedSegment_of_not_blank (segment_not_blank hfault)]

namespace Desk
open History
variable {d : Desk} {c : Candidate} {events : List Event} {confirmation : ConfirmationKind}

/-! ### Deliveries -/

/-- The candidate is valid and no rule denies it now. -/
def Admits (d : Desk) (c : Candidate) : Prop :=
  c.fault? = none ∧ d.chain.evaluate c d.log.history d.now = .allowed

/-- This is the answer to a delivery when these events are recorded. The candidate's own fault comes first, then the
    verdict of the rules, then a failure of the store, which is not met when the view comes too late to be written. -/
structure AnswersDelivery (d : Desk) (c : Candidate) (events : List Event) (answer : Except DeliveryError Outcome) :
    Prop where
  rejected : ∀ e, answer = .ok (.rejected e) ↔ c.fault? = some e
  suppressed : ∀ denial, answer = .ok (.suppressed denial) ↔
    c.fault? = none ∧ d.chain.evaluate c d.log.history d.now = .denied denial
  failed : ∀ err, answer = .error err ↔ d.Admits c ∧ ¬(Event.record c .viewed d.now).Late events ∧
    ∃ fault, d.log.backend.faults.put = some fault ∧ err = .log (.storageFailure fault)
  delivered : answer = .ok .delivered ↔
    d.Admits c ∧ ((Event.record c .viewed d.now).Late events ∨ d.log.backend.faults.put = none)

theorem answersDelivery (h : d.log.Holds events) (c : Candidate) :
    AnswersDelivery d c events (d.deliver c).answer := by
  have hend := delivery_deliver d c
  generalize d.deliver c = r at hend ⊢
  cases hend with
  | rejected hc =>
    have hfault := Candidate.check_eq_error_iff.mp hc
    constructor <;> simp [Admits, hfault, eq_comm]
  | suppressed hc hv =>
    have hfault := Candidate.fault?_of_check hc
    constructor <;> simp [Admits, hfault, hv, eq_comm]
  | recorded hc hv ha =>
    have hfault := Candidate.fault?_of_check hc
    obtain ⟨hlate, hput⟩ := h.exists_append_eq_ok_iff.mp ⟨_, _, ha⟩
    constructor <;> simp [Admits, hfault, hv, hlate, hput]
  | dropped hc hv ha =>
    have hfault := Candidate.fault?_of_check hc
    obtain ⟨last, hlast, hlt, -⟩ | ⟨-, _, -, ⟨⟩⟩ := h.append_eq_error_iff.mp ha
    have hlate := hlast.late_iff.mpr hlt
    constructor <;> simp [Admits, hfault, hv, hlate]
  | unrecorded hc hv ha he =>
    have hfault := Candidate.fault?_of_check hc
    obtain ⟨last, -, -, rfl⟩ | ⟨hlate, fault, hput, rfl⟩ := h.append_eq_error_iff.mp ha
    · exact absurd rfl (he _ _ _)
    · constructor <;> simp [Admits, hfault, hv, hlate, hput, eq_comm]

/-! ### Confirmations -/

/-- The candidate is valid, and its surface can bring the confirmation. -/
def Accepts (c : Candidate) (confirmation : ConfirmationKind) : Prop :=
  c.fault? = none ∧ c.kind.supports confirmation = true

/-- This is the answer to a confirmation when these events are recorded. The candidate's own fault comes first, then
    what its surface supports, then the order of timestamps, and then a failure of the store. -/
structure AnswersConfirmation (d : Desk) (c : Candidate) (confirmation : ConfirmationKind) (events : List Event)
    (answer : Except DeliveryError Unit) : Prop where
  invalid : ∀ e, answer = .error (.invalid e) ↔ c.fault? = some e
  unsupported : ∀ kind k, answer = .error (.unsupported kind k) ↔
    c.fault? = none ∧ c.kind.supports confirmation = false ∧ kind = c.kind ∧ k = confirmation
  outOfOrder : ∀ kind timestamp last, answer = .error (.log (.outOfOrder kind timestamp last)) ↔
    Accepts c confirmation ∧ IsNewest events c.kind last ∧ d.now < last ∧ kind = c.kind ∧ timestamp = d.now
  storageFailure : ∀ fault, answer = .error (.log (.storageFailure fault)) ↔ Accepts c confirmation ∧
    ¬(Event.record c confirmation d.now).Late events ∧ d.log.backend.faults.put = some fault
  taken : answer = .ok () ↔ Accepts c confirmation ∧ ¬(Event.record c confirmation d.now).Late events ∧
    d.log.backend.faults.put = none

theorem answersConfirmation (h : d.log.Holds events) (c : Candidate) (confirmation : ConfirmationKind) :
    AnswersConfirmation d c confirmation events (d.confirm c confirmation).answer := by
  have hend := confirmation_confirm d c confirmation
  generalize d.confirm c confirmation = r at hend ⊢
  -- Where the event is not late, no event of its surface is later than now.
  have hearly (hlate : ¬(Event.record c confirmation d.now).Late events) (last : Instant)
      (hlast : IsNewest events c.kind last) : ¬d.now < last := fun hlt =>
    hlate ((IsNewest.late_iff (e := .record c confirmation d.now) hlast).mpr hlt)
  cases hend with
  | invalid hfault =>
    have hno : ¬Accepts c confirmation := fun ha => by simp [ha.1] at hfault
    constructor <;> simp [hno, hfault]
  | unsupported hfault hs =>
    have hno : ¬Accepts c confirmation := fun ha => by simp [ha.2] at hs
    constructor <;> simp [hno, hfault, hs, @eq_comm _ c.kind, @eq_comm _ confirmation]
  | unrecorded hfault hs ha =>
    have hyes : Accepts c confirmation := ⟨hfault, hs⟩
    obtain ⟨last, hlast, hlt, rfl⟩ | ⟨hlate, fault, hput, rfl⟩ := h.append_eq_error_iff.mp ha
    · have hlate := hlast.late_iff.mpr hlt
      constructor
      case outOfOrder =>
        intro kind timestamp last'
        constructor
        · rintro ⟨rfl, rfl, rfl⟩
          exact ⟨hyes, hlast, hlt, rfl, rfl⟩
        · rintro ⟨-, hlast', -, rfl, rfl⟩
          rw [hlast.unique hlast']
          rfl
      all_goals simp [hyes, hfault, hs, hlate]
    · constructor <;> simp +contextual [hyes, hfault, hs, hlate, hput, hearly hlate, @eq_comm _ fault]
  | recorded hfault hs ha =>
    have hyes : Accepts c confirmation := ⟨hfault, hs⟩
    obtain ⟨hlate, hput⟩ := h.exists_append_eq_ok_iff.mp ⟨_, _, ha⟩
    constructor <;> simp +contextual [hyes, hfault, hs, hlate, hput, hearly hlate]

/-- Other rules change nothing about a confirmation, and it leaves them as they are. -/
theorem confirm_with_chain (d : Desk) (chain : Chain) (c : Candidate) (confirmation : ConfirmationKind) :
    confirm { d with chain } c confirmation =
      { d.confirm c confirmation with desk := { (d.confirm c confirmation).desk with chain } } := by
  rw [confirm, confirm]
  cases c.fault? with
  | some e => rfl
  | none =>
    dsimp only
    cases Event.build? c.kind confirmation c d.now with
    | none => rfl
    | some event =>
      dsimp only
      cases d.log.append event <;> rfl

/-! ### Records -/

/-- Neither a delivery nor a confirmation fails because an event has no record, in whatever state the desk is. -/
theorem answers_ne_serialization (d : Desk) (c : Candidate) (reason : String) :
    (d.deliver c).answer ≠ .error (.log (.serialization reason)) ∧
      ∀ confirmation, (d.confirm c confirmation).answer ≠ .error (.log (.serialization reason)) := by
  constructor
  · have hend := delivery_deliver d c
    generalize d.deliver c = r at hend ⊢
    cases hend with
    | unrecorded _ _ ha =>
      rintro ⟨⟩
      exact Log.append_ne_serialization ha
    | _ => rintro ⟨⟩
  · intro confirmation
    have hend := confirmation_confirm d c confirmation
    generalize d.confirm c confirmation = r at hend ⊢
    cases hend with
    | unrecorded _ _ ha =>
      rintro ⟨⟩
      exact Log.append_ne_serialization ha
    | _ => rintro ⟨⟩

/-! ### Answers at a desk in use -/

/-- At a desk that was set up on an opened log, after whatever was done, everything that can be wrong with a delivery
    or a confirmation is answered in a fixed order, and nothing else is ever answered. A confirmation does not
    depend on the rules. -/
theorem answers_decided_in_order {b : Backend} {log : Log} {opened : Notice} (ho : Log.open? b = .ok (log, opened))
    {chain : Chain} {now : Instant} {fault : Option ReportError} {actions : List Action} {d : Desk}
    (hd : (start chain log now fault).run actions = d) (c : Candidate) :
    AnswersDelivery d c d.log.history.events.toList (d.deliver c).answer ∧
      ∀ confirmation,
        AnswersConfirmation d c confirmation d.log.history.events.toList (d.confirm c confirmation).answer ∧
        ∀ other : Chain, confirm { d with chain := other } c confirmation =
          { d.confirm c confirmation with desk := { (d.confirm c confirmation).desk with chain := other } } := by
  obtain ⟨events, h⟩ := exists_holds_run ho chain now fault actions
  rw [hd] at h
  rw [h.history, events_ofList]
  exact ⟨answersDelivery h c, fun confirmation =>
    ⟨answersConfirmation h c confirmation, fun other => confirm_with_chain d other c confirmation⟩⟩

/-- After the first delivery the clock goes back and the store fails. The ad is shown again, since its view comes too
    late to be written, and a confirmation is refused as out of order and not for the failure. -/
theorem answers_after_clock_went_back : ∃ log opened d, Log.open? ⟨Store.empty, Faults.none⟩ = .ok (log, opened) ∧
    (start [] log Instant.epoch none).run [.deliver plainCandidate, .setClock Instant.earliest,
      .setFaults ⟨some (.io "full"), none, none⟩] = d ∧
    (d.deliver plainCandidate).answer = .ok .delivered ∧
    (d.confirm plainCandidate .clicked).answer =
      .error (.log (.outOfOrder .notification Instant.earliest Instant.epoch)) := by
  obtain ⟨d, hd⟩ : ∃ d, (start [] Log.fresh Instant.epoch none).run [.deliver plainCandidate,
      .setClock Instant.earliest, .setFaults ⟨some (.io "full"), none, none⟩] = d := ⟨_, rfl⟩
  obtain ⟨hchain, hnow, hevents⟩ : d.chain = [] ∧ d.now = Instant.earliest ∧
      d.log.history.events.toList = [.record plainCandidate .viewed Instant.epoch] := by
    simp only [run, List.foldl_cons, List.foldl_nil, act, deliver, check_plain] at hd
    exact hd ▸ ⟨rfl, rfl, rfl⟩
  have h := answers_decided_in_order Log.open?_empty hd plainCandidate
  rw [hevents] at h
  refine ⟨_, _, d, Log.open?_empty, hd, h.1.delivered.mpr ⟨⟨fault?_plain, ?_⟩, Or.inl ?_⟩, ?_⟩
  · rw [hchain]
    rfl
  · rw [hnow]
    decide
  · refine ((h.2 .clicked).1.outOfOrder _ _ _).mpr ⟨⟨fault?_plain, rfl⟩, ⟨?_, ?_⟩, ?_, rfl, hnow.symm⟩
    · exact ⟨_, List.mem_singleton_self _, rfl, rfl⟩
    · intro x hx _
      rw [List.mem_singleton.mp hx]
      exact Instant.le_refl _
    · rw [hnow]
      decide

end Desk
end AdAdmission
