import Mathlib
import AdAdmission.Proofs.History.Latest
import AdAdmission.Proofs.Log.Run

/-! The order of timestamps in a log. Whatever operations lead to a log, the events of each surface are in the
    order of their timestamps. So the last event of a surface tells its latest instant, an event is refused
    as out of order only for a later one of its own surface, and the most recent event is found without
    reading the whole list. -/

namespace AdAdmission

/-- Some recorded event of its surface is later. -/
def Event.Late (e : Event) (events : List Event) : Prop :=
  ∃ x ∈ events, x.adKind = e.adKind ∧ e.timestamp < x.timestamp

instance (e : Event) (events : List Event) : Decidable (e.Late events) := by
  unfold Event.Late
  infer_instance

theorem Event.not_late_iff {e : Event} {events : List Event} :
    ¬e.Late events ↔ ∀ x ∈ events, x.adKind = e.adKind → x.timestamp ≤ e.timestamp := by
  simp only [Late, not_exists, not_and, Instant.not_lt]

namespace History
variable {events : List Event} {kind : AdKind} {t u : Instant}

/-! ### The latest instant of a surface -/

/-- The instant is the greatest of those at which events of the surface happened. -/
structure IsNewest (events : List Event) (kind : AdKind) (t : Instant) : Prop where
  attained : ∃ x ∈ events, x.adKind = kind ∧ x.timestamp = t
  greatest : ∀ x ∈ events, x.adKind = kind → x.timestamp ≤ t

theorem IsNewest.unique (ht : IsNewest events kind t) (hu : IsNewest events kind u) : t = u := by
  obtain ⟨x, hx, hxk, rfl⟩ := ht.attained
  obtain ⟨y, hy, hyk, rfl⟩ := hu.attained
  exact Instant.le_antisymm (hu.greatest x hx hxk) (ht.greatest y hy hyk)

theorem IsNewest.late_iff {e : Event} (ht : IsNewest events e.adKind t) : e.Late events ↔ e.timestamp < t := by
  constructor
  · rintro ⟨x, hx, hk, hlt⟩
    exact Instant.lt_of_lt_of_le hlt (ht.greatest x hx hk)
  · intro hlt
    obtain ⟨x, hx, hk, rfl⟩ := ht.attained
    exact ⟨x, hx, hk, hlt⟩

theorem lastTimestamp?_eq_none_iff :
    (ofList events).lastTimestamp? kind = none ↔ ∀ x ∈ events, x.adKind ≠ kind := by
  rw [lastTimestamp?, ofKind_ofList, Option.map_eq_none_iff, List.getLast?_eq_none_iff, List.filter_eq_nil_iff]
  simp only [beq_iff_eq, ne_eq]

theorem isNewest_of_lastTimestamp? (h : Chronological events) (ht : (ofList events).lastTimestamp? kind = some t) :
    IsNewest events kind t where
  attained := exists_of_lastTimestamp? ht
  greatest := (lastTimestamp?_le_iff h).mp fun last hlast => by
    rw [ht] at hlast
    exact Option.some.inj hlast ▸ Instant.le_refl t

theorem lastTimestamp?_eq_some_iff (h : Chronological events) :
    (ofList events).lastTimestamp? kind = some t ↔ IsNewest events kind t := by
  refine ⟨isNewest_of_lastTimestamp? h, fun ht => ?_⟩
  cases hlast : (ofList events).lastTimestamp? kind with
  | none =>
    obtain ⟨x, hx, hk, -⟩ := ht.attained
    exact absurd hk (lastTimestamp?_eq_none_iff.mp hlast x hx)
  | some last => rw [(isNewest_of_lastTimestamp? h hlast).unique ht]

end History

namespace Log
open History

/-! ### Acceptance -/

theorem precedes?_eq_some_iff {l : List Event} (h : Chronological l) {e : Event} {last : Instant} :
    precedes? (ofList l) e = some last ↔ IsNewest l e.adKind last ∧ e.timestamp < last := by
  rw [precedes?, Option.filter_eq_some_iff, lastTimestamp?_eq_some_iff h, decide_eq_true_eq]

theorem precedes?_eq_none_iff_not_late {l : List Event} (h : Chronological l) {e : Event} :
    precedes? (ofList l) e = none ↔ ¬e.Late l := by
  rw [precedes?_eq_none_iff h, Event.not_late_iff]

theorem exists_isNewest_iff_late {l : List Event} (h : Chronological l) {e : Event} :
    (∃ last, IsNewest l e.adKind last ∧ e.timestamp < last) ↔ e.Late l := by
  rw [← not_iff_not, ← precedes?_eq_none_iff_not_late h, Option.eq_none_iff_forall_not_mem, not_exists]
  simp only [Option.mem_def, precedes?_eq_some_iff h]

/-- The events of other surfaces do not matter to whether an event is in order. -/
theorem precedes?_congr {l l' : List Event} {e : Event}
    (h : l.filter (·.adKind == e.adKind) = l'.filter (·.adKind == e.adKind)) :
    precedes? (ofList l) e = precedes? (ofList l') e := by
  rw [precedes?, precedes?, lastTimestamp?, lastTimestamp?, ofKind_ofList, ofKind_ofList, h]

namespace Holds
variable {log : Log} {events : List Event} {e : Event}

/-- An event is refused because one of its surface is later, or else because the store cannot write. -/
theorem append_eq_error_iff (h : log.Holds events) {err : LogError} : log.append e = .error err ↔
    (∃ last, IsNewest events e.adKind last ∧ e.timestamp < last ∧ err = .outOfOrder e.adKind e.timestamp last) ∨
      ¬e.Late events ∧ ∃ fault, log.backend.faults.put = some fault ∧ err = .storageFailure fault := by
  rw [Log.append_eq_error_iff, h.history, precedes?_eq_none_iff_not_late h.chronological]
  simp only [precedes?_eq_some_iff h.chronological, and_assoc]

theorem exists_append_eq_ok_iff (h : log.Holds events) :
    (∃ log' notice, log.append e = .ok (log', notice)) ↔ ¬e.Late events ∧ log.backend.faults.put = none := by
  simp only [append_eq_ok_iff, h.history, precedes?_eq_none_iff_not_late h.chronological]
  constructor
  · rintro ⟨log', notice, hlate, hput, -⟩
    exact ⟨hlate, hput⟩
  · rintro ⟨hlate, hput⟩
    exact ⟨_, _, hlate, hput, rfl, rfl⟩

/-- A late event is refused before the store is asked: another store would not change the answer. -/
theorem late_iff_refused (h : log.Holds events) : e.Late events ↔ ∃ last, IsNewest events e.adKind last ∧
    ∀ backend, Log.append { log with backend } e = .error (.outOfOrder e.adKind e.timestamp last) := by
  rw [← exists_isNewest_iff_late h.chronological]
  refine exists_congr fun last => and_congr_right fun hlast => ?_
  constructor
  · intro hlt backend
    have hb : Holds { log with backend } events := ⟨h.history, h.chronological⟩
    exact hb.append_eq_error_iff.mpr (Or.inl ⟨last, hlast, hlt, rfl⟩)
  · intro ha
    obtain ⟨_, -, hlt, ⟨⟩⟩ | ⟨-, _, -, ⟨⟩⟩ := h.append_eq_error_iff.mp (ha log.backend)
    exact hlt

theorem storageFailure_iff (h : log.Holds events) {fault : StoreError} :
    log.append e = .error (.storageFailure fault) ↔ ¬e.Late events ∧ log.backend.faults.put = some fault := by
  rw [h.append_eq_error_iff]
  constructor
  · rintro (⟨_, -, -, ⟨⟩⟩ | ⟨hlate, _, hput, ⟨⟩⟩)
    exact ⟨hlate, hput⟩
  · rintro ⟨hlate, hput⟩
    exact Or.inr ⟨hlate, fault, hput, rfl⟩

theorem added_iff (h : log.Holds events) :
    (∃ log' notice, log.append e = .ok (log', notice) ∧ log'.history.events.toList = events ++ [e]) ↔
      ¬e.Late events ∧ log.backend.faults.put = none := by
  rw [← h.exists_append_eq_ok_iff]
  refine exists₂_congr fun log' notice => and_iff_left_of_imp fun ha => ?_
  rw [(h.append ha).history, events_ofList]

end Holds

/-- What becomes of an event, without the log after it. -/
def outcome (log : Log) (e : Event) : Except LogError Unit := (log.append e).map fun _ => ()

theorem outcome_eq {log other : Log} {e : Event} (hp : precedes? log.history e = precedes? other.history e)
    (hput : log.backend.faults.put = other.backend.faults.put) : log.outcome e = other.outcome e := by
  rw [outcome, outcome]
  cases hpre : precedes? other.history e with
  | some last => simp only [append, hp, hpre, Except.map]
  | none =>
    cases hfault : other.backend.faults.put <;>
      simp only [append, Event.serialize_eq, Backend.put, hp, hpre, hput, hfault, Except.map]

theorem outcome_congr {log other : Log} (h : log.Reachable) (hother : other.Reachable) {e : Event}
    (hput : log.backend.faults.put = other.backend.faults.put)
    (hsame : log.history.events.toList.filter (·.adKind == e.adKind) =
      other.history.events.toList.filter (·.adKind == e.adKind)) : log.outcome e = other.outcome e := by
  refine outcome_eq ?_ hput
  rw [h.history_eq, hother.history_eq]
  exact precedes?_congr hsame

/-- On a log that was opened on some store, after whatever was done to it, the events of each surface are in the order
    of their timestamps, and its last event tells its latest instant. An event of which a later one of its surface is
    recorded is refused with that instant, whatever the store holds or would answer. Any other event is refused when
    the store cannot write, and is added at the end when it can. The events of other surfaces do not matter. -/
theorem append_decided_by_surface {log : Log} (h : log.Reachable) {events : List Event}
    (hevents : log.history.events.toList = events) :
    Chronological events ∧
      (∀ kind, (log.history.lastTimestamp? kind = none ↔ ∀ x ∈ events, x.adKind ≠ kind) ∧
        ∀ t, log.history.lastTimestamp? kind = some t ↔ IsNewest events kind t) ∧
      ∀ e,
        (e.Late events ↔ ∃ last, IsNewest events e.adKind last ∧
          ∀ backend, append { log with backend } e = .error (.outOfOrder e.adKind e.timestamp last)) ∧
        (∀ fault, log.append e = .error (.storageFailure fault) ↔
          ¬e.Late events ∧ log.backend.faults.put = some fault) ∧
        ((∃ log' notice, log.append e = .ok (log', notice) ∧ log'.history.events.toList = events ++ [e]) ↔
          ¬e.Late events ∧ log.backend.faults.put = none) ∧
        ∀ other : Log, other.Reachable → other.backend.faults.put = log.backend.faults.put →
          other.history.events.toList.filter (·.adKind == e.adKind) = events.filter (·.adKind == e.adKind) →
          other.outcome e = log.outcome e := by
  obtain ⟨l, hl⟩ := h.exists_holds
  obtain rfl : l = events := by rw [← hevents, hl.history, events_ofList]
  refine ⟨hl.chronological, fun kind => ?_, fun e => ⟨hl.late_iff_refused, fun fault => hl.storageFailure_iff,
    hl.added_iff, fun other hother hput hsame => outcome_congr hother h hput (hevents ▸ hsame)⟩⟩
  rw [hl.history]
  exact ⟨lastTimestamp?_eq_none_iff, fun t => lastTimestamp?_eq_some_iff hl.chronological⟩

/-- A view of the given surface at the earliest instant. -/
def firstView (kind : AdKind) : Event := ⟨kind, .viewed, "ad", "set", "news", Instant.earliest⟩

/-- After a notification of 1970 an earlier one is refused, also by a store that cannot write, but an earlier view
    of promoted content is added. -/
theorem earlier_view_of_other_surface : ∃ log, fresh.performAll [.append (epochView "ad")] = log ∧
    append { log with backend := ⟨Store.empty, some (.io "full"), none, none⟩ } (firstView .notification) =
        .error (.outOfOrder .notification Instant.earliest Instant.epoch) ∧
      ∃ log' notice, log.append (firstView .promotedContent) = .ok (log', notice) ∧
        log'.history.events.toList = [epochView "ad", firstView .promotedContent] := by
  have h := append_decided_by_surface (reachable_fresh [.append (epochView "ad")]) rfl
  have hlate : (firstView .notification).Late (fresh.performAll [.append (epochView "ad")]).history.events.toList := by
    decide
  obtain ⟨last, hlast, hrefused⟩ := (h.2.2 (firstView .notification)).1.mp hlate
  have htime : last = Instant.epoch := hlast.unique ((h.2.1 .notification).2 Instant.epoch |>.mp (by decide))
  refine ⟨_, rfl, htime ▸ hrefused _, (h.2.2 (firstView .promotedContent)).2.2.1.mpr ⟨by decide, rfl⟩⟩

/-! ### The most recent event -/

/-- On a log that was opened on some store, after whatever was done to it, there is no most recent event just when no
    recorded event is of the surface and the confirmation that are asked for. Otherwise it is the one that comes last:
    of those with the greatest timestamp one of the surface declared last, and of these the last recorded. -/
theorem mostRecent_comes_last {log : Log} (h : log.Reachable) (kind : Option AdKind)
    (confirmation : Option ConfirmationKind) :
    (log.history.mostRecent? kind confirmation = none ↔
        ∀ x ∈ log.history.events.toList, ¬x.isOf kind confirmation = true) ∧
      ∀ x, log.history.mostRecent? kind confirmation = some x ↔
        ∃ i, IsLatest log.history.events.toList kind confirmation i x := by
  obtain ⟨events, hholds⟩ := h.exists_holds
  rw [hholds.history, events_ofList]
  exact ⟨mostRecent?_eq_none_iff, fun x => mostRecent?_eq_some_iff hholds.chronological⟩

/-- Two views of promoted content and then one of a notification, all at the earliest instant. -/
theorem latest_of_three_at_once : ∃ log, fresh.performAll [.append (firstView .promotedContent),
      .append { firstView .promotedContent with adIdentifier := "other" }, .append (firstView .notification)] = log ∧
    log.history.mostRecent? none (some .viewed) =
        some { firstView .promotedContent with adIdentifier := "other" } ∧
      (∃ i, IsLatest log.history.events.toList none (some .viewed) i
        { firstView .promotedContent with adIdentifier := "other" }) ∧
      log.history.mostRecent? (some .newTabPageAd) none = none := by
  have h := mostRecent_comes_last (reachable_fresh [.append (firstView .promotedContent),
    .append { firstView .promotedContent with adIdentifier := "other" }, .append (firstView .notification)])
  refine ⟨_, rfl, by decide, ((h none (some .viewed)).2 _).mp (by decide), ?_⟩
  exact (h (some .newTabPageAd) none).1.mpr (by decide)

end Log
end AdAdmission
