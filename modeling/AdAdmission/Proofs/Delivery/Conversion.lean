import Mathlib
import AdAdmission.Proofs.Delivery.Account
import AdAdmission.Proofs.Rule.Decision

/-! Ads that have converted. While the history is not removed it keeps every event it has, whatever the clock
    and the store do, so a conversion stays in it. A chain with a rule that excludes converted ads then
    never shows the ad again, and a chain of such rules alone suppresses a valid candidate for no other
    reason. -/

namespace AdAdmission

/-- The recorded events have a conversion of the ad. -/
def History.Converted (events : List Event) (adIdentifier : String) : Prop :=
  ∃ e ∈ events, e.confirmation = .conversion ∧ e.adIdentifier = adIdentifier

namespace Desk
open History

/-- No reset goes through in the run. -/
def Keeps (d : Desk) (actions : List Action) : Prop := ∀ x ∈ d.exchanges actions, x.answer ≠ .reset (.ok ())

variable {d : Desk} {events : List Event}

theorem not_delivered_of_converted (h : d.log.Holds events) {c : Candidate} (hc : Converted events c.adIdentifier)
    {r : NamedRule} (hr : r ∈ d.chain) (hrule : r.rule = .conversionExclusion) :
    (d.deliver c).answer ≠ .ok .delivered := by
  intro hdel
  obtain ⟨-, hv⟩ := admitted_of_delivered hdel
  have hallowed := Chain.evaluate_eq_allowed_iff.mp hv r hr
  rw [hrule, h.history, Rule.conversionExclusion_eq_allowed_iff] at hallowed
  obtain ⟨e, he, hconf, hid⟩ := hc
  exact hallowed e he hconf hid

theorem converted_of_confirmed (h : d.log.Holds events) {c : Candidate}
    (hok : (d.confirm c .conversion).answer = .ok ()) :
    ∃ events', (d.confirm c .conversion).desk.log.Holds events' ∧ Converted events' c.adIdentifier := by
  refine ⟨_, holds_confirm h c .conversion, .record c .conversion d.now, ?_, rfl, rfl⟩
  rw [hok]
  exact List.mem_append_right _ (List.mem_singleton_self _)

theorem suppressed_iff_of_valid {c : Candidate} (hc : c.fault? = none) :
    (∃ denial, (d.deliver c).answer = .ok (.suppressed denial)) ↔
      d.chain.evaluate c d.log.history d.now ≠ .allowed := by
  have hend := delivery_deliver d c
  generalize d.deliver c = r at hend ⊢
  constructor
  · rintro ⟨denial, h⟩ hv
    cases hend with
    | rejected => cases h
    | suppressed _ hdenied => cases hv.symm.trans hdenied
    | recorded => cases h
    | dropped => cases h
    | unrecorded => cases h
  · intro hdenied
    cases hend with
    | rejected h =>
      rw [Candidate.check, hc, Candidate.checkedSegment_of_not_blank (Candidate.segment_not_blank hc)] at h
      cases h
    | suppressed => exact ⟨_, rfl⟩
    | recorded _ hv => exact absurd hv hdenied
    | dropped _ hv => exact absurd hv hdenied
    | unrecorded _ hv => exact absurd hv hdenied

theorem suppressed_iff_converted (h : d.log.Holds events) (hne : d.chain ≠ [])
    (hall : ∀ r ∈ d.chain, r.rule = .conversionExclusion) {c : Candidate} (hc : c.fault? = none) :
    (∃ denial, (d.deliver c).answer = .ok (.suppressed denial)) ↔ Converted events c.adIdentifier := by
  obtain ⟨first, hfirst⟩ := List.exists_mem_of_ne_nil _ hne
  rw [suppressed_iff_of_valid hc, Ne, Chain.evaluate_eq_allowed_iff, h.history]
  constructor
  · intro hdenied
    by_contra hnone
    refine hdenied fun r hr => ?_
    rw [hall r hr, Rule.conversionExclusion_eq_allowed_iff]
    exact fun e he hconf hid => hnone ⟨e, he, hconf, hid⟩
  · rintro ⟨e, he, hconf, hid⟩ hallowed
    have hrule := hallowed first hfirst
    rw [hall first hfirst, Rule.conversionExclusion_eq_allowed_iff] at hrule
    exact hrule e he hconf hid

/-- At a desk that was set up on a log after whatever was done to either: with a rule that excludes converted
    ads, an ad whose conversion was taken is not delivered while no reset goes through, whatever candidate
    offers it; and with such rules alone a valid candidate is suppressed just when the history has a
    conversion of its ad. -/
theorem converted_never_delivered {b : Backend} {log : Log} {opened : Notice} (ho : Log.open? b = .ok (log, opened))
    (ops : List Log.Operation) {chain : Chain} {now : Instant} {fault : Option ReportError} {actions : List Action}
    {d : Desk} (hd : (start chain (log.performAll ops) now fault).run actions = d) :
    ((∃ r ∈ chain, r.rule = .conversionExclusion) → ∀ c converted, d.confirm c .conversion = converted →
      converted.answer = .ok () → ∀ later, converted.desk.Keeps later → ∀ c' : Candidate,
        c'.adIdentifier = c.adIdentifier → ((converted.desk.run later).deliver c').answer ≠ .ok .delivered) ∧
    (chain ≠ [] → (∀ r ∈ chain, r.rule = .conversionExclusion) → ∀ c : Candidate, c.fault? = none →
      ((∃ denial, (d.deliver c).answer = .ok (.suppressed denial)) ↔
        Converted d.log.history.events.toList c.adIdentifier)) := by
  obtain ⟨before, hopened⟩ := Log.holds_of_open? ho
  have hlog : (start chain (log.performAll ops) now fault).log.Holds (log.recordedAll before ops) :=
    Log.performAll_induction Log.Holds.step log before hopened ops
  have h := holds_run hlog actions
  have hchain : d.chain = chain := hd ▸ chain_run (start chain (log.performAll ops) now fault) actions
  rw [hd] at h
  constructor
  · rintro ⟨r, hr, hrule⟩ c _ rfl hok later hkeeps c' hid
    obtain ⟨events', h', e, he, hconf, heid⟩ := converted_of_confirmed h hok
    have hconverted : Converted (((d.confirm c .conversion).desk.exchanges later).foldl Exchange.retell events')
        c'.adIdentifier :=
      ⟨e, (Exchange.prefix_foldl_retell hkeeps events').mem he, hconf, heid.trans hid.symm⟩
    have hafter : (d.confirm c .conversion).desk.chain = d.chain := (move_act d (.confirm c .conversion)).chain
    have hmem : r ∈ ((d.confirm c .conversion).desk.run later).chain := by
      rw [chain_run, hafter, hchain]
      exact hr
    exact not_delivered_of_converted (holds_run h' later) hconverted hmem hrule
  · intro hne hall c hc
    rw [h.history, History.events_ofList]
    exact suppressed_iff_converted h (hchain ▸ hne) (hchain ▸ hall) hc

/-- The rule that excludes converted ads. -/
def exclusionRule : NamedRule := ⟨"converted", .conversionExclusion⟩

/-- Under that rule a shown ad is not suppressed before it converts. After that it is not delivered from
    another campaign either, though the clock is back at its beginning. -/
theorem converted_ad_stays_hidden : ∃ log opened d, Log.open? ⟨Store.empty, Faults.none⟩ = .ok (log, opened) ∧
    (start [exclusionRule] log Instant.epoch none).run [.deliver plainCandidate] = d ∧
      (¬∃ denial, (d.deliver plainCandidate).answer = .ok (.suppressed denial)) ∧
      ∃ converted, d.confirm plainCandidate .conversion = converted ∧ converted.answer = .ok () ∧
        ((converted.desk.run [.setClock Instant.earliest]).deliver
          { plainCandidate with creativeSetId := "other" }).answer ≠ .ok .delivered := by
  have h := converted_never_delivered Log.open?_empty []
    (rfl : (start [exclusionRule] Log.fresh Instant.epoch none).run [.deliver plainCandidate] = _)
  have hok : (((start [exclusionRule] Log.fresh Instant.epoch none).run [.deliver plainCandidate]).confirm
      plainCandidate .conversion).answer = .ok () := by
    simp only [run, List.foldl_cons, List.foldl_nil, act, deliver, confirm, check_plain, fault?_plain]
    rfl
  have hevents : ((start [exclusionRule] Log.fresh Instant.epoch none).run
      [.deliver plainCandidate]).log.history.events.toList = [.record plainCandidate .viewed Instant.epoch] := by
    simp only [run, List.foldl_cons, List.foldl_nil, act, deliver, check_plain]
    rfl
  refine ⟨_, _, _, Log.open?_empty, rfl, ?_, _, rfl, hok, ?_⟩
  · rw [h.2 (List.cons_ne_nil _ _) (by simp [exclusionRule]) _ fault?_plain, hevents]
    rintro ⟨e, he, hconf, -⟩
    obtain rfl := List.mem_singleton.mp he
    cases hconf
  · refine h.1 ⟨_, List.mem_singleton_self _, rfl⟩ _ _ rfl hok _ (fun x hx => ?_) _ rfl
    obtain rfl := List.mem_singleton.mp hx
    rintro ⟨⟩

end Desk
end AdAdmission
