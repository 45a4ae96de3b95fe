import Mathlib
import AdAdmission.History
import AdAdmission.Proofs.List.Ordered
import AdAdmission.Proofs.Time.Order

/-! What the indexes of a history give. An index holds for each key exactly the positions of its events,
    so the events of a surface, an ad or a campaign are those of the list, filtered. While the events of
    each surface are in the order of their timestamps, every count from an instant on is the count that
    reading the whole list would give. -/

namespace AdAdmission

theorem Event.isOf_iff_forall {e : Event} {kind : Option AdKind} {confirmation : Option ConfirmationKind} :
    e.isOf kind confirmation = true ↔ (∀ k ∈ kind, e.adKind = k) ∧ ∀ k ∈ confirmation, e.confirmation = k := by
  rw [isOf, Bool.and_eq_true, Option.all_eq_true, Option.all_eq_true]
  simp only [beq_iff_eq]
  exact and_congr (forall₂_congr fun _ _ => eq_comm) (forall₂_congr fun _ _ => eq_comm)

/-! ### Positions -/

/-- The index holds for each key the positions of its events. -/
def Index.Locates {α : Type} [DecidableEq α] (index : Index α) (key : Event → α) (events : List Event) : Prop :=
  ∀ k, index.positions k = events.findIdxs fun e => key e == k

theorem Index.Locates.add {α : Type} [DecidableEq α] {index : Index α} {key : Event → α} {events : List Event}
    (h : index.Locates key events) (e : Event) :
    Index.Locates (index.add (key e) events.length) key (events ++ [e]) := by
  intro k
  rw [Index.positions_add, h k, List.findIdxs_append, Nat.zero_add, List.findIdxs_singleton]
  by_cases hk : key e = k <;> simp [hk]

theorem filterMap_findIdxs (p : Event → Bool) (events : List Event) :
    (events.findIdxs p).filterMap (events[·]?) = events.filter p := by
  induction events using List.reverseRecOn with
  | nil => rfl
  | append_singleton l e ih =>
    have hold : (l.findIdxs p).filterMap ((l ++ [e])[·]?) = (l.findIdxs p).filterMap (l[·]?) := by
      refine List.filterMap_congr fun i hi => ?_
      have hlt : i < l.length := by simpa using List.lt_add_of_mem_findIdxs i hi
      exact List.getElem?_append_left hlt
    rw [List.findIdxs_append, List.filterMap_append, List.filter_append, hold, ih, Nat.zero_add,
      List.findIdxs_singleton]
    cases hp : p e <;> simp [hp]

namespace History

/-! ### Recorded lists -/

@[simp]
theorem ofList_append (l : List Event) (e : Event) : ofList (l ++ [e]) = (ofList l).record e := by
  rw [ofList, List.foldl_append]
  rfl

@[simp]
theorem events_ofList (l : List Event) : (ofList l).events.toList = l := by
  induction l using List.reverseRecOn with
  | nil => rfl
  | append_singleton l e ih => rw [ofList_append, record, Array.toList_push, ih]

@[simp]
theorem size_ofList (l : List Event) : (ofList l).size = l.length := by
  rw [size, ← Array.length_toList, events_ofList]

/-- Recording locates every event under its surface, its ad and its campaign. -/
theorem locates_ofList (l : List Event) : (ofList l).byKind.Locates Event.adKind l ∧
    (ofList l).byAd.Locates Event.adIdentifier l ∧ (ofList l).bySet.Locates Event.creativeSetId l := by
  induction l using List.reverseRecOn with
  | nil => exact ⟨fun _ => rfl, fun _ => rfl, fun _ => rfl⟩
  | append_singleton l e ih =>
    have hsize : (ofList l).events.size = l.length := size_ofList l
    rw [ofList_append]
    simp only [record, hsize]
    exact ⟨ih.1.add e, ih.2.1.add e, ih.2.2.add e⟩

theorem eventsAt_of_locates {α : Type} [DecidableEq α] {index : Index α} {key : Event → α} {l : List Event}
    (h : index.Locates key l) (k : α) :
    (ofList l).eventsAt (index.positions k) = l.filter fun e => key e == k := by
  have hget : ∀ i, (ofList l).events[i]? = l[i]? := fun i => by rw [← Array.getElem?_toList, events_ofList]
  simp only [eventsAt, hget]
  rw [h k, filterMap_findIdxs]

theorem ofKind_ofList (l : List Event) (kind : AdKind) :
    (ofList l).ofKind kind = l.filter fun e => e.adKind == kind := eventsAt_of_locates (locates_ofList l).1 kind

theorem ofAd_ofList (l : List Event) (adIdentifier : String) :
    (ofList l).ofAd adIdentifier = l.filter fun e => e.adIdentifier == adIdentifier :=
  eventsAt_of_locates (locates_ofList l).2.1 adIdentifier

theorem ofSet_ofList (l : List Event) (creativeSetId : String) :
    (ofList l).ofSet creativeSetId = l.filter fun e => e.creativeSetId == creativeSetId :=
  eventsAt_of_locates (locates_ofList l).2.2 creativeSetId

/-! ### The order of timestamps -/

/-- The events of each surface are in the order of their timestamps. -/
def Chronological (l : List Event) : Prop :=
  l.Pairwise fun a b => a.adKind = b.adKind → a.timestamp ≤ b.timestamp

instance (l : List Event) : Decidable (Chronological l) := by
  unfold Chronological
  infer_instance

theorem chronological_append {l : List Event} {e : Event} : Chronological (l ++ [e]) ↔
    Chronological l ∧ ∀ x ∈ l, x.adKind = e.adKind → x.timestamp ≤ e.timestamp := by
  simp [Chronological, List.pairwise_append]

theorem exists_of_lastTimestamp? {l : List Event} {kind : AdKind} {last : Instant}
    (h : (ofList l).lastTimestamp? kind = some last) : ∃ x ∈ l, x.adKind = kind ∧ x.timestamp = last := by
  rw [lastTimestamp?, ofKind_ofList] at h
  obtain ⟨x, hx, rfl⟩ := Option.map_eq_some_iff.mp h
  obtain ⟨hmem, hk⟩ := List.mem_filter.mp (List.mem_of_getLast? hx)
  exact ⟨x, hmem, beq_iff_eq.mp hk, rfl⟩

theorem lastTimestamp?_le_iff {l : List Event} (h : Chronological l) {kind : AdKind} {t : Instant} :
    (∀ last ∈ (ofList l).lastTimestamp? kind, last ≤ t) ↔ ∀ x ∈ l, x.adKind = kind → x.timestamp ≤ t := by
  rw [lastTimestamp?, ofKind_ofList]
  induction l using List.reverseRecOn with
  | nil => simp
  | append_singleton l e ih =>
    obtain ⟨hl, hlast⟩ := chronological_append.mp h
    rw [List.filter_append]
    by_cases hk : e.adKind = kind
    · subst hk
      constructor
      · intro hle x hx hxk
        have he : e.timestamp ≤ t := by simpa using hle
        rcases List.mem_append.mp hx with hx | hx
        · exact Instant.le_trans (hlast x hx hxk) he
        · exact List.mem_singleton.mp hx ▸ he
      · intro hall
        simpa using hall e (by simp) rfl
    · have hnil : [e].filter (fun e => e.adKind == kind) = [] := by simp [hk]
      rw [hnil, List.append_nil, ih hl]
      constructor
      · intro hall x hx hxk
        rcases List.mem_append.mp hx with hx | hx
        · exact hall x hx hxk
        · exact absurd (List.mem_singleton.mp hx ▸ hxk) hk
      · exact fun hall x hx => hall x (List.mem_append_left _ hx)

/-! ### Counting -/

theorem countAmong_filter (l : List Event) (p : Event → Bool) (confirmation : Option ConfirmationKind)
    (since : Instant) : countAmong (l.filter p) confirmation since =
      l.countP fun e => (since ≤ e.timestamp && e.isOf none confirmation) && p e := by
  rw [countAmong, List.countP_filter]

theorem countForAdSince_ofList (l : List Event) (adIdentifier : String)
    (confirmation : Option ConfirmationKind) (since : Instant) :
    (ofList l).countForAdSince adIdentifier confirmation since =
      l.countP fun e => (since ≤ e.timestamp && e.isOf none confirmation) && e.adIdentifier == adIdentifier := by
  rw [countForAdSince, ofAd_ofList, countAmong_filter]

theorem countForSetSince_ofList (l : List Event) (creativeSetId : String)
    (confirmation : Option ConfirmationKind) (since : Instant) :
    (ofList l).countForSetSince creativeSetId confirmation since =
      l.countP fun e => (since ≤ e.timestamp && e.isOf none confirmation) && e.creativeSetId == creativeSetId := by
  rw [countForSetSince, ofSet_ofList, countAmong_filter]

/-- The events of a surface before an instant come first among those of the surface. -/
theorem leading_ofKind {l : List Event} (h : Chronological l) (kind : AdKind) (since : Instant) :
    Ordered.Leading (fun e : Event => decide (e.timestamp < since)) (l.filter fun e => e.adKind == kind) := by
  refine (List.Pairwise.filter _ h).imp_of_mem fun {a b} ha hb hab hlt => ?_
  have hka : a.adKind = kind := by simpa using (List.mem_filter.mp ha).2
  have hkb : b.adKind = kind := by simpa using (List.mem_filter.mp hb).2
  refine decide_eq_true fun hle => ?_
  exact of_decide_eq_true hlt (Instant.le_trans hle (hab (hka.trans hkb.symm)))

/-- Skipping the events before an instant counts those from it on. -/
theorem countP_ofKind_dropWhile {l : List Event} (h : Chronological l) (kind : AdKind) (since : Instant)
    (p : Event → Bool) :
    (((ofList l).ofKind kind).dropWhile fun e => e.timestamp < since).countP p =
      l.countP fun e => (since ≤ e.timestamp && p e) && e.adKind == kind := by
  rw [ofKind_ofList, Ordered.dropWhile_eq_filter (leading_ofKind h kind since), List.countP_filter, List.countP_filter]
  refine List.countP_congr fun e _ => ?_
  simp only [← Instant.not_lt, Bool.and_eq_true, Bool.not_eq_true', decide_eq_false_iff_not, decide_eq_true_eq]
  tauto

theorem countP_kinds (l : List Event) (p : Event → Bool) :
    (AdKind.all.map fun kind => l.countP fun e => p e && e.adKind == kind).sum = l.countP p := by
  induction l with
  | nil => rfl
  | cons e l ih =>
    simp only [AdKind.all, List.map_cons, List.map_nil, List.sum_cons, List.sum_nil, List.countP_cons] at ih ⊢
    rw [← ih]
    cases hp : p e <;> cases hk : e.adKind <;> simp <;> omega

/-- A count over a window is the count over the whole list, whatever the surfaces it covers. -/
theorem countSince_ofList {l : List Event} (h : Chronological l) (kind : Option AdKind)
    (confirmation : Option ConfirmationKind) (since : Instant) :
    (ofList l).countSince kind confirmation since =
      l.countP fun e => since ≤ e.timestamp && e.isOf kind confirmation := by
  rw [countSince, List.countP_flatMap]
  simp only [Function.comp_def, countP_ofKind_dropWhile h]
  cases kind with
  | none => exact countP_kinds l _
  | some kind =>
    rw [scope, List.map_singleton, List.sum_singleton]
    refine List.countP_congr fun e _ => ?_
    simp only [Event.isOf, Option.all_some, Option.all_none, Bool.true_and, Bool.and_eq_true, beq_iff_eq]
    tauto

end History
end AdAdmission
