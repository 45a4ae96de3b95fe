import Mathlib
import AdAdmission.Proofs.Delivery.Steps

/-! Notices as an audit. What a run told adds up to the number of recorded events and to the number of ads that
    were shown. A notice of a recorded event names the entry of the store that was written, and where no notice
    tells of a change of the log there was none. A delivery warns just when it shows an ad without recording
    it, and tells of an error just when the store failed. -/

namespace AdAdmission

/-! ### Accounts of notices -/

namespace Notice

/-- The content of the field of the given name. -/
def field? (n : Notice) (name : String) : Option Content := n.fields.lookup name

/-- The number of events that a notice of a reset tells to be removed. -/
def removed (n : Notice) : Nat :=
  if n.message = "ad event history reset" then
    match n.field? "removed" with
    | some (.count events) => events
    | _ => 0
  else 0

def appends (ns : List Notice) : Nat := ns.countP (·.message = "ad event appended")

def removals (ns : List Notice) : Nat := (ns.map removed).sum

def deliveries (ns : List Notice) : Nat := ns.countP fun n => n.level = .info ∧ n.message = "ad delivered"

/-- The notice tells of a change of the log. -/
def tellsOfLog (n : Notice) : Bool := n.message = "ad event appended" || n.message = "ad event history reset"

theorem appends_append (ns ns' : List Notice) : appends (ns ++ ns') = appends ns + appends ns' := List.countP_append

theorem removals_append (ns ns' : List Notice) : removals (ns ++ ns') = removals ns + removals ns' := by
  rw [removals, List.map_append, List.sum_append]
  rfl

theorem deliveries_append (ns ns' : List Notice) : deliveries (ns ++ ns') = deliveries ns + deliveries ns' :=
  List.countP_append

/-- The other notices do not count for the log. -/
theorem appends_filter (ns : List Notice) : appends (ns.filter tellsOfLog) = appends ns := by
  rw [appends, List.countP_filter, appends]
  refine List.countP_congr fun n _ => ?_
  simp only [tellsOfLog, decide_eq_true_eq, Bool.and_eq_true, Bool.or_eq_true]
  exact ⟨And.left, fun h => ⟨h, Or.inl h⟩⟩

theorem removed_of_not_tellsOfLog {n : Notice} (h : n.tellsOfLog = false) : n.removed = 0 :=
  if_neg (of_decide_eq_false (Bool.or_eq_false_iff.mp h).2)

theorem removals_filter (ns : List Notice) : removals (ns.filter tellsOfLog) = removals ns := by
  induction ns with
  | nil => rfl
  | cons n ns ih =>
    cases h : n.tellsOfLog with
    | true =>
      rw [List.filter_cons_of_pos h, removals, List.map_cons, List.sum_cons, ← removals, ih]
      rfl
    | false =>
      rw [List.filter_cons_of_neg (by simp [h]), ih, removals, removals, List.map_cons, List.sum_cons,
        removed_of_not_tellsOfLog h, Nat.zero_add]

end Notice

/-! ### The log -/

namespace Log
open Notice

/-- Notices with what became of the log: an event was appended and one notice tells of it, or the history was
    removed and one notice tells of that, or no notice tells of the log and at most the failures of its store were
    set. -/
inductive Told (log : Log) (ns : List Notice) : Log → Prop where
  | appended {e : Event} {log' : Log} {notice : Notice} (ha : log.append e = .ok (log', notice))
    (hns : ns.filter tellsOfLog = [notice]) : Told log ns log'
  | removed {log' : Log} {notice : Notice} (hr : log.reset = .ok (log', notice))
    (hns : ns.filter tellsOfLog = [notice]) : Told log ns log'
  | nothing (faults : Faults) (hns : ns.filter tellsOfLog = []) :
    Told log ns { log with backend := { log.backend with faults } }

namespace Told
variable {log log' : Log} {ns : List Notice}

theorem size (h : Told log ns log') : log'.size + removals ns = log.size + appends ns := by
  rw [← removals_filter, ← appends_filter]
  cases h with
  | appended ha hns =>
    obtain ⟨-, -, -, rfl⟩ := append_eq_ok_iff.mp ha
    rw [hns, size_append ha]
    rfl
  | removed hr hns =>
    obtain ⟨-, rfl, rfl⟩ := reset_eq_ok_iff.mp hr
    rw [hns]
    exact Nat.add_comm _ _
  | nothing faults hns =>
    rw [hns]
    rfl

/-- The key that a notice gives is that of the entry that was written. -/
theorem written (h : Told log ns log') {n : Notice} (hn : n ∈ ns) (hm : n.message = "ad event appended") :
    ∃ key e, n.field? "key" = some (.text key) ∧ log'.history = log.history.record e ∧
      log'.backend.store = log.backend.store.put key e.encode := by
  have hlog : n ∈ ns.filter tellsOfLog := List.mem_filter.mpr ⟨hn, by simp [tellsOfLog, hm]⟩
  cases h with
  | @appended e _ _ ha hns =>
    obtain ⟨-, -, rfl, rfl⟩ := append_eq_ok_iff.mp ha
    obtain rfl := List.mem_singleton.mp (hns ▸ hlog)
    exact ⟨_, e, rfl, rfl, rfl⟩
  | removed hr hns =>
    obtain ⟨-, -, rfl⟩ := reset_eq_ok_iff.mp hr
    obtain rfl := List.mem_singleton.mp (hns ▸ hlog)
    cases (by decide : "ad event history reset" ≠ "ad event appended") hm
  | nothing faults hns =>
    rw [hns] at hlog
    cases hlog

/-- Without a notice of it the log does not change. -/
theorem unchanged (h : Told log ns log')
    (hns : ∀ n ∈ ns, n.message ≠ "ad event appended" ∧ n.message ≠ "ad event history reset") :
    log'.history = log.history ∧ log'.nextSequence = log.nextSequence ∧ log'.backend.store = log.backend.store := by
  have hnone : ns.filter tellsOfLog = [] :=
    List.filter_eq_nil_iff.mpr fun n hn => by simp [tellsOfLog, hns n hn]
  cases h with
  | appended _ hone =>
    rw [hnone] at hone
    cases hone
  | removed _ hone =>
    rw [hnone] at hone
    cases hone
  | nothing => exact ⟨rfl, rfl, rfl⟩

end Told
end Log

namespace Desk
open Notice

/-! ### Single actions -/

/-- What is told while an ad is displayed: that the signal was missed, perhaps, and that the ad was delivered. -/
theorem quiet_display (d : Desk) (c : Candidate) (s : Segment) : ∀ n ∈ (d.display c s).2,
    n.tellsOfLog = false ∧ n.level ≠ .error ∧ n.message ≠ "dropping out-of-order view event" := by
  rw [display]
  cases d.reportFault <;> simp [tellsOfLog, Notice.level, Notice.message]

theorem filter_display (d : Desk) (c : Candidate) (s : Segment) : (d.display c s).2.filter tellsOfLog = [] :=
  List.filter_eq_nil_iff.mpr fun n hn => by simp [(quiet_display d c s n hn).1]

theorem shown_display (d : Desk) (c : Candidate) (s : Segment) :
    (d.display c s).1.shown.length = d.shown.length + deliveries (d.display c s).2 := by
  rw [display]
  cases d.reportFault <;> simp [deliveries, Notice.level, Notice.message]

/-- The notices account for what became of the log and for the ads that were shown. -/
structure Accounts (d : Desk) (ns : List Notice) (d' : Desk) : Prop where
  log : d.log.Told ns d'.log
  shown : d'.shown.length = d.shown.length + deliveries ns

theorem accounts_deliver (d : Desk) (c : Candidate) : d.Accounts (d.deliver c).notices (d.deliver c).desk := by
  have h := delivery_deliver d c
  generalize d.deliver c = r at h ⊢
  cases h with
  | rejected => exact ⟨.nothing _ rfl, rfl⟩
  | suppressed => exact ⟨.nothing _ rfl, rfl⟩
  | @recorded segment log _ _ _ ha =>
    obtain ⟨-, -, -, hnotice⟩ := Log.append_eq_ok_iff.mp ha
    refine ⟨.appended ha ?_, ?_⟩
    · rw [hnotice]
      exact congrArg (_ :: ·) (filter_display _ c segment)
    · rw [hnotice]
      exact shown_display { d with log } c segment
  | dropped => exact ⟨.nothing _ (filter_display d c _), shown_display d c _⟩
  | unrecorded => exact ⟨.nothing _ rfl, rfl⟩

theorem accounts_confirm (d : Desk) (c : Candidate) (confirmation : ConfirmationKind) :
    d.Accounts (d.confirm c confirmation).notices (d.confirm c confirmation).desk := by
  have h := confirmation_confirm d c confirmation
  generalize d.confirm c confirmation = r at h ⊢
  cases h with
  | invalid => exact ⟨.nothing _ rfl, rfl⟩
  | unsupported => exact ⟨.nothing _ rfl, rfl⟩
  | unrecorded => exact ⟨.nothing _ rfl, rfl⟩
  | recorded _ _ ha =>
    obtain ⟨-, -, -, hnotice⟩ := Log.append_eq_ok_iff.mp ha
    exact ⟨.appended ha (by rw [hnotice]; rfl), by rw [hnotice]; rfl⟩

theorem accounts_resetHistory (d : Desk) : d.Accounts d.resetHistory.notices d.resetHistory.desk := by
  have h := removal_resetHistory d
  generalize d.resetHistory = r at h ⊢
  cases h with
  | refused => exact ⟨.nothing _ rfl, rfl⟩
  | removed hr =>
    obtain ⟨-, -, hnotice⟩ := Log.reset_eq_ok_iff.mp hr
    exact ⟨.removed hr (by rw [hnotice]; rfl), by rw [hnotice]; rfl⟩

theorem accounts_act (d : Desk) (a : Action) : d.Accounts (d.act a).notices (d.act a).desk := by
  cases a with
  | deliver c => exact accounts_deliver d c
  | confirm c confirmation => exact accounts_confirm d c confirmation
  | reset => exact accounts_resetHistory d
  | advance => exact ⟨.nothing _ rfl, rfl⟩
  | setClock => exact ⟨.nothing _ rfl, rfl⟩
  | setFaults faults => exact ⟨.nothing faults rfl, rfl⟩

/-- A delivery warns that the view was dropped just when the ad was shown and the log did not grow. -/
theorem dropped_iff (d : Desk) (c : Candidate) :
    (∃ n ∈ (d.deliver c).notices, n.level = .warn ∧ n.message = "dropping out-of-order view event") ↔
      d.shown.length < (d.deliver c).desk.shown.length ∧ ¬d.log.size < (d.deliver c).desk.log.size := by
  have h := delivery_deliver d c
  generalize d.deliver c = r at h ⊢
  cases h with
  | rejected => simp [Notice.level]
  | suppressed => simp [Chain.notice, Notice.level]
  | @recorded segment log _ _ _ ha =>
    have hgrown : d.log.size < log.size := by
      rw [Log.size_append ha]
      exact Nat.lt_succ_self _
    obtain ⟨-, -, -, rfl⟩ := Log.append_eq_ok_iff.mp ha
    refine iff_of_false ?_ fun h => h.2 hgrown
    rintro ⟨n, hn, hl, hm⟩
    rcases List.mem_cons.mp hn with rfl | hn
    · cases hl
    · rcases List.mem_cons.mp hn with rfl | hn
      · cases hl
      · exact (quiet_display _ c segment n hn).2.2 hm
  | dropped =>
    refine iff_of_true ⟨_, List.mem_cons_of_mem _ List.mem_cons_self, rfl, rfl⟩ ⟨?_, lt_irrefl _⟩
    exact List.length_append.symm ▸ Nat.lt_succ_self _
  | unrecorded => simp [Chain.notice, Notice.level]

/-- A delivery tells of an error just when it answers that the store failed. -/
theorem failed_iff (d : Desk) (c : Candidate) : (∃ n ∈ (d.deliver c).notices, n.level = .error) ↔
    ∃ e, (d.deliver c).answer = .error (.log (.storageFailure e)) := by
  have h := delivery_deliver d c
  generalize d.deliver c = r at h ⊢
  cases h with
  | rejected => simp [Notice.level]
  | suppressed => simp [Chain.notice, Notice.level]
  | @recorded segment log _ _ _ ha =>
    obtain ⟨-, -, -, rfl⟩ := Log.append_eq_ok_iff.mp ha
    have hquiet := quiet_display { d with log } c segment
    simpa [Chain.notice, Notice.level] using fun n hn => (hquiet n hn).2.1
  | @dropped segment =>
    have hquiet := quiet_display d c segment
    simpa [Chain.notice, Notice.level] using fun n hn => (hquiet n hn).2.1
  | unrecorded _ _ ha he =>
    refine iff_of_true ⟨_, List.mem_cons_of_mem _ List.mem_cons_self, rfl⟩ ?_
    rcases Log.append_eq_error_iff.mp ha with ⟨last, -, rfl⟩ | ⟨-, fault, -, rfl⟩
    · cases he _ _ _ rfl
    · exact ⟨fault, rfl⟩

/-! ### Runs -/

/-- What is told in a run, in order. -/
def told : Desk → List Action → List Notice
  | _, [] => []
  | d, a :: actions => (d.act a).notices ++ told (d.act a).desk actions

theorem size_run (d : Desk) (actions : List Action) :
    (d.run actions).log.size + removals (d.told actions) = d.log.size + appends (d.told actions) := by
  induction actions generalizing d with
  | nil => rfl
  | cons a actions ih =>
    have hact := (accounts_act d a).log.size
    have hrest := ih (d.act a).desk
    rw [told, removals_append, appends_append]
    change ((d.act a).desk.run actions).log.size + _ = _
    omega

theorem shown_run (d : Desk) (actions : List Action) :
    (d.run actions).shown.length = d.shown.length + deliveries (d.told actions) := by
  induction actions generalizing d with
  | nil => rfl
  | cons a actions ih =>
    rw [told, deliveries_append, ← Nat.add_assoc, ← (accounts_act d a).shown]
    exact ih (d.act a).desk

/-- At a desk that was set up on a log which told how many events it opened with, after whatever was done, the
    number of events is that number with the appended ones and without the removed ones, and the ads that were
    shown are those told to be delivered. Whatever is done next, a notice of an appended event names the entry
    that was written, and where none tells of the log it stays as it is. A delivery warns of a dropped view just
    when it shows an ad and the log does not grow, and tells of an error just when the store failed. -/
theorem notices_are_faithful {b : Backend} {log : Log} {n₀ : Nat} (ho : Log.open? b = .ok (log, .logOpened n₀))
    {chain : Chain} {now : Instant} {fault : Option ReportError} {actions : List Action} {d : Desk}
    (hd : (start chain log now fault).run actions = d) {ns : List Notice}
    (hns : (start chain log now fault).told actions = ns) :
    d.log.size + removals ns = n₀ + appends ns ∧ d.shown.length = deliveries ns ∧
      (∀ a, (∀ n ∈ (d.act a).notices, n.message = "ad event appended" → ∃ key e,
            n.field? "key" = some (.text key) ∧ (d.act a).desk.log.history = d.log.history.record e ∧
              (d.act a).desk.log.backend.store = d.log.backend.store.put key e.encode) ∧
          ((∀ n ∈ (d.act a).notices,
              n.message ≠ "ad event appended" ∧ n.message ≠ "ad event history reset") →
            (d.act a).desk.log.history = d.log.history ∧ (d.act a).desk.log.nextSequence = d.log.nextSequence ∧
              (d.act a).desk.log.backend.store = d.log.backend.store)) ∧
        ∀ c, ((∃ n ∈ (d.deliver c).notices, n.level = .warn ∧ n.message = "dropping out-of-order view event") ↔
            d.shown.length < (d.deliver c).desk.shown.length ∧ ¬d.log.size < (d.deliver c).desk.log.size) ∧
          ((∃ n ∈ (d.deliver c).notices, n.level = .error) ↔
            ∃ e, (d.deliver c).answer = .error (.log (.storageFailure e))) := by
  have hsize := size_run (start chain log now fault) actions
  have hshown := shown_run (start chain log now fault) actions
  have hopened : (start chain log now fault).log.size = n₀ := Log.size_of_open? ho
  rw [hd, hns] at hsize hshown
  rw [hopened] at hsize
  refine ⟨hsize, hshown.trans (Nat.zero_add _), fun a => ?_, fun c => ⟨dropped_iff d c, failed_iff d c⟩⟩
  exact ⟨fun n hn hm => (accounts_act d a).log.written hn hm, (accounts_act d a).log.unchanged⟩

/-- An ad is shown, the history is reset, the ad is shown again, and then the clock goes back. -/
def twoShowings : List Action :=
  [.deliver plainCandidate, .reset, .deliver plainCandidate, .setClock Instant.earliest]

/-- Two events were appended and one was removed, so one is left, and the next delivery warns that it dropped its
    view. -/
theorem audit_of_two_showings : ∃ d ns, Log.open? ⟨Store.empty, Faults.none⟩ = .ok (Log.fresh, .logOpened 0) ∧
    (start [] Log.fresh Instant.epoch none).run twoShowings = d ∧
    (start [] Log.fresh Instant.epoch none).told twoShowings = ns ∧
    appends ns = 2 ∧ removals ns = 1 ∧ d.log.size = 1 ∧ d.shown.length = 2 ∧
      ∃ n ∈ (d.deliver plainCandidate).notices,
        n.level = .warn ∧ n.message = "dropping out-of-order view event" := by
  have htold : ∃ ns, (start [] Log.fresh Instant.epoch none).told twoShowings = ns ∧
      appends ns = 2 ∧ removals ns = 1 ∧ deliveries ns = 2 := by
    simp only [twoShowings, told, act, deliver, check_plain]
    exact ⟨_, rfl, rfl, rfl, rfl⟩
  obtain ⟨ns, hns, happends, hremovals, hdeliveries⟩ := htold
  have hd : (start [] Log.fresh Instant.epoch none).run twoShowings = _ := rfl
  obtain ⟨hsize, hshown, -, hdeliver⟩ := notices_are_faithful Log.open?_empty hd hns
  refine ⟨_, ns, Log.open?_empty, hd, hns, happends, hremovals, by omega, by omega, (hdeliver plainCandidate).1.mpr ?_⟩
  simp only [twoShowings, run, List.foldl_cons, List.foldl_nil, act, deliver, check_plain]
  exact ⟨by decide, by decide⟩

end Desk
end AdAdmission
