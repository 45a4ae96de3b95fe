import Mathlib
import AdAdmission.Proofs.History.Index

/-! The latest event. While the events of each surface are in the order of their timestamps, the search from
    the end of a surface stops at its latest event of the confirmation asked for, and the latest of what
    the surfaces give is the latest of all. Of several at one instant it is one of the surface declared
    last, and of that surface the last recorded. -/

namespace AdAdmission

theorem AdKind.rank_injective {j k : AdKind} (h : j.rank = k.rank) : j = k := by
  have hk := all_getElem?_rank k
  rw [← h, all_getElem?_rank j] at hk
  exact Option.some.inj hk

theorem Event.isOf_iff {e : Event} {kind : Option AdKind} {confirmation : Option ConfirmationKind} :
    e.isOf kind confirmation = true ↔ e.adKind ∈ History.scope kind ∧ e.isOf none confirmation = true := by
  have hkind : kind.all (· == e.adKind) = true ↔ e.adKind ∈ History.scope kind := by
    cases kind with
    | none => exact iff_of_true rfl (AdKind.mem_all _)
    | some k => rw [Option.all_some, beq_iff_eq, History.scope, List.mem_singleton, eq_comm]
  rw [isOf, isOf, Bool.and_eq_true, Option.all_none, Bool.true_and, hkind]

theorem Event.isOf_kind_iff {e : Event} {kind : AdKind} {confirmation : Option ConfirmationKind} :
    e.isOf (some kind) confirmation = true ↔ e.adKind = kind ∧ e.isOf none confirmation = true := by
  rw [isOf_iff, History.scope, List.mem_singleton]

namespace History

/-! ### The later of events -/

theorem later_ne_none (best : Option Event) (e : Event) : later best e ≠ none := by
  cases best with
  | none => exact Option.some_ne_none e
  | some b =>
    rw [later]
    split <;> exact Option.some_ne_none _

theorem foldl_later_eq_none_iff {l : List Event} : l.foldl later none = none ↔ l = [] := by
  induction l using List.reverseRecOn with
  | nil => exact iff_of_true rfl rfl
  | append_singleton l e _ =>
    rw [List.foldl_concat]
    exact iff_of_false (later_ne_none _ e) (by simp)

/-- Of several events the last of the latest is kept: none before it is later, and all after it are earlier. -/
theorem exists_split_of_foldl_later {l : List Event} {x : Event} (h : l.foldl later none = some x) :
    ∃ before after, l = before ++ x :: after ∧ (∀ y ∈ before, y.timestamp ≤ x.timestamp) ∧
      ∀ y ∈ after, y.timestamp < x.timestamp := by
  induction l using List.reverseRecOn generalizing x with
  | nil => cases h
  | append_singleton l e ih =>
    rw [List.foldl_concat] at h
    cases hl : l.foldl later none with
    | none =>
      obtain rfl := foldl_later_eq_none_iff.mp hl
      obtain rfl : e = x := Option.some.inj h
      exact ⟨[], [], rfl, List.forall_mem_nil _, List.forall_mem_nil _⟩
    | some b =>
      obtain ⟨before, after, rfl, hbefore, hafter⟩ := ih hl
      rw [hl, later] at h
      split at h
      · rename_i hlt
        obtain rfl := Option.some.inj h
        refine ⟨before, after ++ [e], by simp, hbefore, fun y hy => ?_⟩
        rcases List.mem_append.mp hy with hy | hy
        · exact hafter y hy
        · exact List.mem_singleton.mp hy ▸ hlt
      · rename_i hle
        obtain rfl := Option.some.inj h
        have hbe : b.timestamp ≤ e.timestamp := Instant.not_lt.mp hle
        refine ⟨before ++ b :: after, [], rfl, fun y hy => ?_, List.forall_mem_nil _⟩
        rcases List.mem_append.mp hy with hy | hy
        · exact Instant.le_trans (hbefore y hy) hbe
        · rcases List.mem_cons.mp hy with rfl | hy
          · exact hbe
          · exact Instant.le_trans (Instant.le_of_lt (hafter y hy)) hbe

/-! ### The last event of a surface -/

/-- The last event of the surface, of the confirmation where one is given. -/
def lastOf? (h : History) (kind : AdKind) (confirmation : Option ConfirmationKind) : Option Event :=
  (h.ofKind kind).reverse.find? (·.isOf none confirmation)

theorem lastOf?_ofList (l : List Event) (kind : AdKind) (confirmation : Option ConfirmationKind) :
    (ofList l).lastOf? kind confirmation = l.reverse.find? (·.isOf (some kind) confirmation) := by
  rw [lastOf?, ofKind_ofList, ← List.filter_reverse, List.find?_filter]
  congr 1
  funext e
  rw [Bool.eq_iff_iff, decide_eq_true_eq, Event.isOf_kind_iff, beq_iff_eq]

theorem lastOf?_eq_none_iff {l : List Event} {kind : AdKind} {confirmation : Option ConfirmationKind} :
    (ofList l).lastOf? kind confirmation = none ↔ ∀ x ∈ l, ¬x.isOf (some kind) confirmation = true := by
  rw [lastOf?_ofList, List.find?_eq_none]
  simp only [List.mem_reverse]

/-- The search from the end stops at an event after which there is none of those asked for. -/
theorem exists_split_of_lastOf? {l : List Event} {kind : AdKind} {confirmation : Option ConfirmationKind} {x : Event}
    (h : (ofList l).lastOf? kind confirmation = some x) : x.isOf (some kind) confirmation = true ∧
      ∃ before after, l = before ++ x :: after ∧ ∀ y ∈ after, ¬y.isOf (some kind) confirmation = true := by
  rw [lastOf?_ofList, List.find?_eq_some_iff_append] at h
  obtain ⟨hx, after, before, hl, hafter⟩ := h
  refine ⟨hx, before.reverse, after.reverse, ?_, fun y hy => ?_⟩
  · rw [← List.reverse_reverse l, hl]
    simp
  · simpa using hafter y (List.mem_reverse.mp hy)

/-- An event is no later than the last one of its surface. -/
theorem exists_lastOf? {l : List Event} (h : Chronological l) {confirmation : Option ConfirmationKind} {y : Event}
    (hy : y ∈ l) (hp : y.isOf none confirmation = true) :
    ∃ x, (ofList l).lastOf? y.adKind confirmation = some x ∧ y.timestamp ≤ x.timestamp := by
  have hself : y.isOf (some y.adKind) confirmation = true := Event.isOf_kind_iff.mpr ⟨rfl, hp⟩
  cases hlast : (ofList l).lastOf? y.adKind confirmation with
  | none => exact absurd hself (lastOf?_eq_none_iff.mp hlast y hy)
  | some x =>
    obtain ⟨hx, before, after, rfl, hafter⟩ := exists_split_of_lastOf? hlast
    refine ⟨x, rfl, ?_⟩
    rcases List.mem_append.mp hy with hy | hy
    · exact (List.pairwise_append.mp h).2.2 y hy x List.mem_cons_self (Event.isOf_kind_iff.mp hx).1.symm
    · rcases List.mem_cons.mp hy with rfl | hy
      · exact Instant.le_refl _
      · exact absurd hself (hafter y hy)

/-! ### The latest event of all -/

theorem mostRecent?_eq (h : History) (kind : Option AdKind) (confirmation : Option ConfirmationKind) :
    h.mostRecent? kind confirmation = ((scope kind).filterMap (h.lastOf? · confirmation)).foldl later none := rfl

theorem ranked_scope (kind : Option AdKind) : (scope kind).Pairwise fun j k => j.rank < k.rank := by
  cases kind with
  | none => decide
  | some k => exact List.pairwise_singleton _ _

/-- What the surfaces give is in the order of their declaration. -/
theorem ranked_lastOf? (l : List Event) (kind : Option AdKind) (confirmation : Option ConfirmationKind) :
    ((scope kind).filterMap ((ofList l).lastOf? · confirmation)).Pairwise fun a b => a.adKind.rank < b.adKind.rank := by
  refine (ranked_scope kind).filterMap _ fun j k hjk a ha b hb => ?_
  rw [(Event.isOf_kind_iff.mp (exists_split_of_lastOf? ha).1).1, (Event.isOf_kind_iff.mp (exists_split_of_lastOf? hb).1).1]
  exact hjk

theorem mostRecent?_eq_none_iff {l : List Event} {kind : Option AdKind} {confirmation : Option ConfirmationKind} :
    (ofList l).mostRecent? kind confirmation = none ↔ ∀ x ∈ l, ¬x.isOf kind confirmation = true := by
  rw [mostRecent?_eq, foldl_later_eq_none_iff, List.filterMap_eq_nil_iff]
  constructor
  · intro h x hx hp
    obtain ⟨hscope, hconf⟩ := Event.isOf_iff.mp hp
    exact lastOf?_eq_none_iff.mp (h _ hscope) x hx (Event.isOf_kind_iff.mpr ⟨rfl, hconf⟩)
  · intro h k hk
    refine lastOf?_eq_none_iff.mpr fun x hx hp => h x hx ?_
    obtain ⟨rfl, hconf⟩ := Event.isOf_kind_iff.mp hp
    exact Event.isOf_iff.mpr ⟨hk, hconf⟩

/-- The event at position `i` comes last of those of the surface and the confirmation, where these are given: by
    its instant, then by the declaration of its surface, then by its position. -/
structure IsLatest (l : List Event) (kind : Option AdKind) (confirmation : Option ConfirmationKind) (i : Nat)
    (x : Event) : Prop where
  recorded : l[i]? = some x
  asked : x.isOf kind confirmation = true
  greatest : ∀ y ∈ l, y.isOf kind confirmation = true → y.timestamp ≤ x.timestamp
  declaredLast : ∀ y ∈ l, y.isOf kind confirmation = true → y.timestamp = x.timestamp → y.adKind.rank ≤ x.adKind.rank
  recordedLast : ∀ (j : Nat) (y : Event), l[j]? = some y → y.isOf kind confirmation = true →
    y.timestamp = x.timestamp → y.adKind = x.adKind → j ≤ i

theorem IsLatest.unique {l : List Event} {kind : Option AdKind} {confirmation : Option ConfirmationKind} {i j : Nat}
    {x y : Event} (hx : IsLatest l kind confirmation i x) (hy : IsLatest l kind confirmation j y) : x = y := by
  have hxl := List.mem_of_getElem? hx.recorded
  have hyl := List.mem_of_getElem? hy.recorded
  have htime : x.timestamp = y.timestamp :=
    Instant.le_antisymm (hy.greatest x hxl hx.asked) (hx.greatest y hyl hy.asked)
  have hkind : x.adKind = y.adKind := AdKind.rank_injective
    (Nat.le_antisymm (hy.declaredLast x hxl hx.asked htime) (hx.declaredLast y hyl hy.asked htime.symm))
  have hpos : i = j := Nat.le_antisymm (hy.recordedLast i x hx.recorded hx.asked htime hkind)
    (hx.recordedLast j y hy.recorded hy.asked htime.symm hkind.symm)
  exact Option.some.inj (hx.recorded.symm.trans (hpos ▸ hy.recorded))

/-- Where the surfaces give the kept event between some that are no later and some that are earlier, an event that was
    asked for is earlier, or of the same surface or one that was searched before. -/
theorem earlier_or_ranked {l : List Event} (h : Chronological l) {kind : Option AdKind}
    {confirmation : Option ConfirmationKind} {before after : List Event} {x : Event}
    (hsplit : (scope kind).filterMap ((ofList l).lastOf? · confirmation) = before ++ x :: after)
    (hbefore : ∀ y ∈ before, y.timestamp ≤ x.timestamp) (hafter : ∀ y ∈ after, y.timestamp < x.timestamp) {y : Event}
    (hy : y ∈ l) (hp : y.isOf kind confirmation = true) :
    y.timestamp < x.timestamp ∨ y.timestamp ≤ x.timestamp ∧ y.adKind.rank ≤ x.adKind.rank := by
  have hranked := ranked_lastOf? l kind confirmation
  rw [hsplit] at hranked
  obtain ⟨hscope, hconf⟩ := Event.isOf_iff.mp hp
  obtain ⟨z, hz, hyz⟩ := exists_lastOf? h hy hconf
  have hzk : z.adKind = y.adKind := (Event.isOf_kind_iff.mp (exists_split_of_lastOf? hz).1).1
  have hzmem : z ∈ before ++ x :: after := hsplit ▸ List.mem_filterMap.mpr ⟨_, hscope, hz⟩
  rcases List.mem_append.mp hzmem with hzb | hzx
  · have hrank := (List.pairwise_append.mp hranked).2.2 z hzb x List.mem_cons_self
    rw [hzk] at hrank
    exact Or.inr ⟨Instant.le_trans hyz (hbefore z hzb), Nat.le_of_lt hrank⟩
  · rcases List.mem_cons.mp hzx with rfl | hza
    · exact Or.inr ⟨hyz, hzk ▸ Nat.le_refl _⟩
    · exact Or.inl (Instant.lt_of_le_of_lt hyz (hafter z hza))

theorem exists_isLatest {l : List Event} (h : Chronological l) {kind : Option AdKind}
    {confirmation : Option ConfirmationKind} {x : Event} (hx : (ofList l).mostRecent? kind confirmation = some x) :
    ∃ i, IsLatest l kind confirmation i x := by
  rw [mostRecent?_eq] at hx
  obtain ⟨before, after, hsplit, hbefore, hafter⟩ := exists_split_of_foldl_later hx
  have hyields := fun {y : Event} => earlier_or_ranked h (y := y) hsplit hbefore hafter
  have hmem : x ∈ (scope kind).filterMap ((ofList l).lastOf? · confirmation) := hsplit ▸ by simp
  obtain ⟨k, hk, hlast⟩ := List.mem_filterMap.mp hmem
  obtain ⟨hxk, left, right, hl, hright⟩ := exists_split_of_lastOf? hlast
  obtain ⟨rfl, hconf⟩ := Event.isOf_kind_iff.mp hxk
  refine ⟨left.length, ?_, Event.isOf_iff.mpr ⟨hk, hconf⟩, ?_, ?_, ?_⟩
  · rw [hl]
    simp
  · intro y hy hp
    exact (hyields hy hp).elim Instant.le_of_lt And.left
  · intro y hy hp htime
    rcases hyields hy hp with hlt | ⟨-, hrank⟩
    · exact absurd (htime ▸ Instant.le_refl _) hlt
    · exact hrank
  · intro j y hj hp _ hyk
    by_contra hlate
    -- Behind the last event of its surface there is none that was asked for.
    rw [hl, List.append_cons, List.getElem?_append_right (by simp; omega)] at hj
    exact hright y (List.mem_of_getElem? hj) (Event.isOf_kind_iff.mpr ⟨hyk, (Event.isOf_iff.mp hp).2⟩)

theorem mostRecent?_eq_some_iff {l : List Event} (h : Chronological l) {kind : Option AdKind}
    {confirmation : Option ConfirmationKind} {x : Event} :
    (ofList l).mostRecent? kind confirmation = some x ↔ ∃ i, IsLatest l kind confirmation i x := by
  refine ⟨exists_isLatest h, fun ⟨i, hx⟩ => ?_⟩
  cases hm : (ofList l).mostRecent? kind confirmation with
  | none => exact absurd hx.asked (mostRecent?_eq_none_iff.mp hm x (List.mem_of_getElem? hx.recorded))
  | some y =>
    obtain ⟨j, hy⟩ := exists_isLatest h hm
    rw [hy.unique hx]

/-- When some event was asked for, the most recent of those asked for is no earlier than any of them. -/
theorem exists_mostRecent? {l : List Event} (h : Chronological l) {kind : Option AdKind}
    {confirmation : Option ConfirmationKind} {y : Event} (hy : y ∈ l) (hp : y.isOf kind confirmation = true) :
    ∃ x ∈ l, (ofList l).mostRecent? kind confirmation = some x ∧ x.isOf kind confirmation = true ∧
      ∀ z ∈ l, z.isOf kind confirmation = true → z.timestamp ≤ x.timestamp := by
  cases hm : (ofList l).mostRecent? kind confirmation with
  | none => exact absurd hp (mostRecent?_eq_none_iff.mp hm y hy)
  | some x =>
    obtain ⟨i, hx⟩ := exists_isLatest h hm
    exact ⟨x, List.mem_of_getElem? hx.recorded, rfl, hx.asked, hx.greatest⟩

end History
end AdAdmission
