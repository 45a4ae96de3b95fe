import Mathlib
import AdAdmission.Proofs.Delivery.Account
import AdAdmission.Proofs.Delivery.Caps

/-! Minimum intervals over whole runs. A rule that asks for an interval between views looks at the latest view
    alone. While the clock does not go back and the history is not removed, every shown ad has its view in
    the log, and the latest view is no earlier than that, so each ad the rule governs is shown at least the
    interval after all those before it. -/

namespace AdAdmission
namespace Desk

/-- The showing is of a surface that the scope covers. -/
def Showing.isOf (s : Showing) (scope : Option AdKind) : Bool := scope.all (· == s.candidate.kind)

/-- The second showing is at least so many seconds after the first. -/
def Showing.Apart (gap : UInt64) (s t : Showing) : Prop := gap.toNat * 1000000000 ≤ t.now.moment - s.now.moment

/-- The showings of the scope are apart, and what was recorded within a leap second was recorded before all of
    them. -/
structure Spaced (gap : UInt64) (scope : Option AdKind) (past : List Showing) (events : List Event) : Prop where
  apart : (past.filter (·.isOf scope)).Pairwise (Showing.Apart gap)
  leap_le : ∀ x ∈ events, x.timestamp.InLeap → ∀ s ∈ past, x.timestamp ≤ s.now

theorem Showing.view_isOf (s : Showing) (scope : Option AdKind) :
    s.view.isOf scope (some .viewed) = s.isOf scope := by
  rw [Event.isOf, Option.all_some]
  exact Bool.and_true _

namespace Spaced
variable {d : Desk} {past : List Showing} {events events' : List Event} {gap : UInt64} {scope : Option AdKind}

/-- A candidate of the scope that the rule allows is apart from every showing before it. -/
theorem apart_of_allowed (h : Spaced gap scope past events) (ht : d.Tracked past events) {c : Candidate}
    (hc : Showing.isOf ⟨d.now, c⟩ scope = true)
    (ha : (Rule.minimumInterval gap scope .viewed).decide c d.log.history d.now = .allowed) {s : Showing}
    (hs : s ∈ past) (hscope : s.isOf scope = true) : Showing.Apart gap s ⟨d.now, c⟩ := by
  have hview : s.view ∈ events := ht.views.subset (List.mem_map_of_mem hs)
  rw [ht.holds.history] at ha
  obtain ⟨x, hx, hle, hold⟩ := Rule.exists_old_of_allowed ht.holds.chronological hc ha hview
    ((s.view_isOf scope).trans hscope)
  -- An event within a leap second is no later than the showing, and so it would be at the same instant.
  have hleap : ¬x.timestamp.InLeap := fun hin => by
    have heq : x.timestamp = s.now := Instant.le_antisymm (h.leap_le x hx hin s hs) hle
    exact ht.past_steady s hs (heq ▸ hin)
  have hgap : ¬d.now.moment - x.timestamp.moment < gap.toNat * 1000000000 := fun hlt =>
    not_lt.mpr hold ((Instant.elapsed_lt_iff ht.now_steady hleap gap).mpr hlt)
  have hmoment : s.now.moment ≤ x.timestamp.moment :=
    (Instant.le_iff_moment (ht.past_steady s hs) hleap).mp hle
  change gap.toNat * 1000000000 ≤ d.now.moment - s.now.moment
  omega

theorem leap_le_step (h : Spaced gap scope past events) (ht : d.Tracked past events) {a : Action}
    (ht' : (d.act a).desk.Tracked (past ++ d.shownBetween (d.act a).desk) events') :
    ∀ x ∈ events', x.timestamp.InLeap → ∀ s ∈ past ++ d.shownBetween (d.act a).desk, x.timestamp ≤ s.now := by
  intro x hx hin s hs
  obtain rfl := ht'.holds.unique (holds_act ht.holds a)
  rcases Exchange.timestamp_of_mem_retell hx with hx | hnow
  · rcases List.mem_append.mp hs with hs | hs
    · exact h.leap_le x hx hin s hs
    · rw [now_of_mem_shownBetween hs]
      exact ht.le_now x hx
  · have hnow : x.timestamp = d.now := hnow
    exact absurd (hnow ▸ hin) ht.now_steady

theorem step (h : Spaced gap scope past events) (ht : d.Tracked past events) {a : Action}
    (ht' : (d.act a).desk.Tracked (past ++ d.shownBetween (d.act a).desk) events') {r : NamedRule} (hr : r ∈ d.chain)
    (hrule : r.rule = .minimumInterval gap scope .viewed) :
    Spaced gap scope (past ++ d.shownBetween (d.act a).desk) events' where
  apart := by
    rcases ht.shown_eq_or_allowed (move_act d a) with hshown | ⟨c, hshown, hv⟩
    · rw [shownBetween_of_eq hshown, List.append_nil]
      exact h.apart
    · rw [shownBetween_of_append hshown, List.filter_append]
      refine List.pairwise_append.mpr ⟨h.apart, List.Pairwise.filter _ (List.pairwise_singleton _ _), ?_⟩
      intro s hs t ht''
      obtain ⟨hs, hscope⟩ := List.mem_filter.mp hs
      obtain ⟨hnew, hc⟩ := List.mem_filter.mp ht''
      obtain rfl := List.mem_singleton.mp hnew
      exact h.apart_of_allowed ht hc (hrule ▸ Chain.evaluate_eq_allowed_iff.mp hv r hr) hs hscope
  leap_le := h.leap_le_step ht ht'

end Spaced

/-- On an opened log whose events are not later than the clock, a rule that asks for an interval between views
    keeps any two shown ads of its scope apart by it, in every run in which the clock does not go back and
    the history is not removed. -/
theorem interval_between_showings {b : Backend} {log : Log} {opened : Notice} (ho : Log.open? b = .ok (log, opened))
    {chain : Chain} {now : Instant} {fault : Option ReportError} (hleap : ¬now.InLeap)
    (hpast : ∀ x ∈ log.history.events.toList, x.timestamp ≤ now) {actions : List Action}
    (hsteady : (start chain log now fault).Steady actions) {r : NamedRule} (hr : r ∈ chain) {gap : UInt64}
    {scope : Option AdKind} (hrule : r.rule = .minimumInterval gap scope .viewed) :
    (((start chain log now fault).showings actions).filter (·.isOf scope)).Pairwise (Showing.Apart gap) := by
  obtain ⟨events, hholds⟩ := Log.holds_of_open? ho
  have h : (start chain log now fault).Tracked [] events := tracked_start hholds hpast hleap
  obtain ⟨events', -, hspaced⟩ := h.run_induction
    (p := fun d past events => r ∈ d.chain ∧ Spaced gap scope past events)
    (fun {d _ _ a _} ht ht' ⟨hr, hs⟩ => ⟨(move_act d a).chain.symm ▸ hr, hs.step ht ht' hr hrule⟩)
    ⟨hr, List.Pairwise.nil, fun _ _ _ s hs => by cases hs⟩ hsteady
  exact hspaced.apart

/-- A rule that asks for an hour between any two views. -/
def waitRule : NamedRule := ⟨"wait", .minimumInterval 3600 none .viewed⟩

/-- One in the morning of 1 January 1970. -/
def firstHour : Instant := (Instant.of? 3600 0).getD Instant.earliest

/-- Under that rule an ad is asked for three times, twice at one instant and once an hour later, and shown the
    first time and the last. -/
theorem interval_of_an_hour : ∃ log opened, Log.open? ⟨Store.empty, Faults.none⟩ = .ok (log, opened) ∧
    (start [waitRule] log Instant.epoch none).showings [.deliver plainCandidate, .deliver plainCandidate,
      .setClock firstHour, .deliver plainCandidate] = [⟨Instant.epoch, plainCandidate⟩, ⟨firstHour, plainCandidate⟩] ∧
      Showing.Apart 3600 ⟨Instant.epoch, plainCandidate⟩ ⟨firstHour, plainCandidate⟩ := by
  have hpast : ∀ x ∈ Log.fresh.history.events.toList, x.timestamp ≤ Instant.epoch := fun x hx => by cases hx
  have hsteady : (start [waitRule] Log.fresh Instant.epoch none).Steady [.deliver plainCandidate,
      .deliver plainCandidate, .setClock firstHour, .deliver plainCandidate] := by
    simp only [Steady, act, now_deliver, setClock]
    exact ⟨⟨Instant.le_refl _, by decide, by rintro ⟨⟩⟩, ⟨Instant.le_refl _, by decide, by rintro ⟨⟩⟩,
      ⟨by decide, by decide, by rintro ⟨⟩⟩, ⟨Instant.le_refl _, by decide, by rintro ⟨⟩⟩, trivial⟩
  have hshown : (start [waitRule] Log.fresh Instant.epoch none).showings [.deliver plainCandidate,
      .deliver plainCandidate, .setClock firstHour, .deliver plainCandidate] =
      [⟨Instant.epoch, plainCandidate⟩, ⟨firstHour, plainCandidate⟩] := by
    simp only [showings, act, deliver, check_plain]
    rfl
  have h := interval_between_showings Log.open?_empty (by decide) hpast hsteady (List.mem_singleton_self _) rfl
  rw [hshown] at h
  exact ⟨_, _, Log.open?_empty, hshown, (List.pairwise_pair.mp h)⟩

end Desk
end AdAdmission
