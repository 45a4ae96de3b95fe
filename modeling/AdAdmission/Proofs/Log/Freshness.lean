import Mathlib
import AdAdmission.Proofs.Event.Record
import AdAdmission.Proofs.Log.Run
import AdAdmission.Proofs.Text.Utf8

/-! Freshness of keys. The next number follows that of the last key, so the next key comes after all others
    only if the last key itself is ordered like its number. Keys that were written are; of the others the
    log accepts, one with too few digits is not, and the next write may replace a record. The same
    happens at the greatest number, which is followed by itself. -/

namespace AdAdmission
namespace Log
open Text

/-! ### Writes that replace nothing -/

/-- A write that makes one new entry of the store, after all event records, and leaves the others. -/
structure AddsOne (s : Store) (key : String) (value : ByteArray) (s' : Store) : Prop where
  fresh : ∀ x ∈ s.entries, x.1 ≠ key
  last : ∀ x ∈ s.entries, beginsWith keyStem x.1 = true → x.1.toUTF8.data.toList < key.toUTF8.data.toList
  size : s'.size = s.size + 1
  kept : ∀ x ∈ s.entries, x ∈ s'.entries
  order : s'.scan keyStem = s.scan keyStem ++ [(key, value)]

/-- Under the stem, a write replaces nothing and comes last just when its key is after all keys there. -/
theorem addsOne_put_iff {s : Store} {key : String} {value : ByteArray} (hk : beginsWith keyStem key = true) :
    AddsOne s key value (s.put key value) ↔
      ∀ k ∈ s.entries.map (·.1), beginsWith keyStem k = true → k < key := by
  constructor
  · intro h k hmem hstem
    obtain ⟨x, hx, rfl⟩ := List.mem_map.mp hmem
    exact lt_iff_toUTF8_lt.mpr (h.last x hx hstem)
  · intro h
    have hlast : ∀ x ∈ s.entries, beginsWith keyStem x.1 = true → x.1 < key := fun x hx hstem =>
      h x.1 (List.mem_map_of_mem hx) hstem
    have hscan : (s.put key value).scan keyStem = s.scan keyStem ++ [(key, value)] :=
      Store.scan_put_of_forall_lt hk fun x hx => hlast x (Store.mem_scan.mp hx).1 (Store.mem_scan.mp hx).2
    refine ⟨fun x hx heq => ?_, fun x hx hstem => lt_iff_toUTF8_lt.mp (hlast x hx hstem), ?_, fun x hx => ?_, hscan⟩
    · exact String.ne_of_lt (hlast x hx (heq ▸ hk)) heq
    · rw [Store.size_eq _ keyStem, Store.size_eq s keyStem, hscan, Store.outside_put hk, List.length_append,
        List.length_singleton]
      omega
    · by_cases hstem : beginsWith keyStem x.1 = true
      · have hmem : x ∈ (s.put key value).scan keyStem := by
          rw [hscan]
          exact List.mem_append_left _ (Store.mem_scan.mpr ⟨hx, hstem⟩)
        exact (Store.mem_scan.mp hmem).1
      · have hmem : x ∈ (s.put key value).outside keyStem := by
          rw [Store.outside_put hk]
          exact List.mem_filter.mpr ⟨hx, by simpa using hstem⟩
        exact (List.mem_filter.mp hmem).1

/-! ### Numbers -/

theorem following_iterate_toNat (n : UInt64) (i : Nat) :
    (following^[i] n).toNat = min (n.toNat + i) 18446744073709551615 := by
  have hn := toNat_le n
  induction i with
  | zero => simpa using hn
  | succ i ih =>
    rw [Function.iterate_succ_apply', following_toNat, ih]
    omega

/-! ### Written keys -/

/-- The second log has gone on from the first: it recorded more events, and the keys of its store are the
    earlier ones and those of the numbers that follow one another. -/
def Continues (log : Log) (events : List Event) (log' : Log) (events' : List Event) : Prop :=
  ∃ new, events' = events ++ new ∧ log'.nextSequence = following^[new.length] log.nextSequence ∧
    ∀ k, k ∈ log'.backend.store.entries.map (·.1) ↔
      k ∈ log.backend.store.entries.map (·.1) ∨ ∃ i < new.length, k = keyOf (following^[i] log.nextSequence)

namespace Continues
variable {log log' log'' : Log} {events events' events'' : List Event}

theorem refl (log : Log) (events : List Event) : Continues log events log events :=
  ⟨[], (List.append_nil _).symm, rfl, fun _ => by simp⟩

theorem trans (h₁ : Continues log events log' events') (h₂ : Continues log' events' log'' events'') :
    Continues log events log'' events'' := by
  obtain ⟨new₁, rfl, hnext₁, hkeys₁⟩ := h₁
  obtain ⟨new₂, rfl, hnext₂, hkeys₂⟩ := h₂
  have hiter : ∀ i, following^[i] log'.nextSequence = following^[i + new₁.length] log.nextSequence := fun i => by
    rw [hnext₁, ← Function.iterate_add_apply]
  refine ⟨new₁ ++ new₂, List.append_assoc _ _ _, ?_, fun k => ?_⟩
  · rw [hnext₂, hiter, List.length_append, Nat.add_comm]
  · rw [hkeys₂, hkeys₁, List.length_append, or_assoc]
    refine or_congr_right ⟨?_, ?_⟩
    · rintro (⟨i, hi, rfl⟩ | ⟨i, hi, rfl⟩)
      · exact ⟨i, by omega, rfl⟩
      · exact ⟨i + new₁.length, by omega, by rw [hiter]⟩
    · rintro ⟨i, hi, rfl⟩
      by_cases hold : i < new₁.length
      · exact Or.inl ⟨i, hold, rfl⟩
      · refine Or.inr ⟨i - new₁.length, by omega, ?_⟩
        rw [hiter, Nat.sub_add_cancel (by omega)]

theorem step {op : Operation} (hs : Step log events op log' events') (hop : op ≠ .reset) :
    Continues log events log' events' := by
  cases hs with
  | appended ha =>
    rename_i e notice
    obtain ⟨-, -, rfl, -⟩ := append_eq_ok_iff.mp ha
    refine ⟨[e], rfl, rfl, fun k => ?_⟩
    rw [Store.mem_keys_put, or_comm]
    simp
  | removed => exact absurd rfl hop
  | failed => exact refl _ _
  | setFaults => exact ⟨[], (List.append_nil _).symm, rfl, fun _ => by simp⟩

/-- A run without removals goes on from the log it begins with. -/
theorem run {ops : List Operation} (hkeep : Operation.reset ∉ ops) (log : Log) (events : List Event) :
    Continues log events (log.performAll ops) (log.recordedAll events ops) := by
  induction ops generalizing log events with
  | nil => exact refl log events
  | cons op ops ih =>
    rw [List.mem_cons, not_or] at hkeep
    exact (step (step_perform log events op) (Ne.symm hkeep.1)).trans (ih hkeep.2 _ _)

end Continues

/-! ### The next key -/

theorem nextOf_of_getLast? {entries : List Entry} {x : Entry} {n : UInt64} (hx : entries.getLast? = some x)
    (hn : sequence? x.1 = some n) : nextOf entries = following n := by
  simp [nextOf, hx, hn]

theorem exists_sequence? {entries : List Entry} {events : List Event} (h : entries.map event? = events.map some)
    {x : Entry} (hx : x ∈ entries) : ∃ n, sequence? x.1 = some n := by
  have hmem : event? x ∈ events.map some := h ▸ List.mem_map_of_mem hx
  obtain ⟨e, -, he⟩ := List.mem_map.mp hmem
  obtain ⟨n, hn, -⟩ := Option.bind_eq_some_iff.mp he.symm
  exact ⟨n, hn⟩

theorem le_getLast {l : List Entry} (h : l.Pairwise fun a b => a.1 < b.1) {last : Entry}
    (hlast : l.getLast? = some last) {x : Entry} (hx : x ∈ l) : x = last ∨ x.1 < last.1 := by
  obtain ⟨init, rfl⟩ := List.getLast?_eq_some_iff.mp hlast
  rcases List.mem_append.mp hx with hx | hx
  · exact Or.inr ((List.pairwise_append.mp h).2.2 x hx last (List.mem_singleton_self _))
  · exact Or.inl (List.mem_singleton.mp hx)

/-- The key of a number from the next one on is after all event records just when it is after the last of
    them. -/
theorem forall_lt_keyOf_iff {b : Backend} {log : Log} {notice : Notice} (ho : open? b = .ok (log, notice))
    {n : UInt64} (hn : log.nextSequence.toNat ≤ n.toNat) :
    (∀ k ∈ b.store.entries.map (·.1), beginsWith keyStem k = true → k < keyOf n) ↔
      ∀ x ∈ (b.store.scan keyStem).getLast?, Below x.1 n.toNat := by
  obtain ⟨-, events, hmap, -, rfl, -⟩ := open?_eq_ok_iff.mp ho
  have hbelow : ∀ x, (b.store.scan keyStem).getLast? = some x → (x.1 < keyOf n ↔ Below x.1 n.toNat) := by
    intro x hx
    obtain ⟨m, hm⟩ := exists_sequence? hmap (List.mem_of_getLast? hx)
    have hnext : nextOf (b.store.scan keyStem) = following m := nextOf_of_getLast? hx hm
    have hfollow := following_toNat m
    have hle := toNat_le m
    dsimp only at hn
    rw [hnext] at hn
    exact lt_keyOf_iff hm (by omega) (by omega)
  constructor
  · intro h x hx
    have hscan := Store.mem_scan.mp (List.mem_of_getLast? hx)
    exact (hbelow x hx).mp (h x.1 (List.mem_map_of_mem hscan.1) hscan.2)
  · intro h k hk hstem
    obtain ⟨x, hx, rfl⟩ := List.mem_map.mp hk
    have hscan : x ∈ b.store.scan keyStem := Store.mem_scan.mpr ⟨hx, hstem⟩
    cases hlast : (b.store.scan keyStem).getLast? with
    | none => simp [List.getLast?_eq_none_iff.mp hlast] at hscan
    | some last =>
      have hlt := (hbelow last hlast).mpr (h last hlast)
      rcases le_getLast (Store.scan_ascending _ _) hlast hscan with rfl | hless
      · exact hlt
      · exact String.lt_trans hless hlt

/-- On an opened log, after a run without removals, the next event adds one entry after all event records
    and replaces none just when the key of its number is after the last record that was opened, and the
    numbers have not run out. -/
theorem append_adds_one_iff {b : Backend} {log log' : Log} {opened appended : Notice}
    (ho : open? b = .ok (log, opened)) {ops : List Operation} (hkeep : Operation.reset ∉ ops) {e : Event}
    (ha : (log.performAll ops).append e = .ok (log', appended)) :
    AddsOne (log.performAll ops).backend.store (keyOf (log.performAll ops).nextSequence) e.encode
        log'.backend.store ↔
      (∀ x ∈ (b.store.scan keyStem).getLast?,
        Below x.1 (log.nextSequence.toNat + (log.recordedAll [] ops).length)) ∧
      log.nextSequence.toNat + (log.recordedAll [] ops).length < 2 ^ 64 := by
  obtain ⟨new, hnew, hnext, hkeys⟩ := Continues.run hkeep log []
  obtain ⟨-, -, rfl, -⟩ := append_eq_ok_iff.mp ha
  have hstore : log.backend.store = b.store := by
    obtain ⟨-, -, -, -, rfl, -⟩ := open?_eq_ok_iff.mp ho
    rfl
  have hfirst := toNat_le log.nextSequence
  have hlast := following_iterate_toNat log.nextSequence new.length
  rw [List.nil_append] at hnew
  rw [addsOne_put_iff (beginsWith_keyOf _), hnew, hnext]
  have hall := forall_lt_keyOf_iff ho (n := following^[new.length] log.nextSequence) (by omega)
  constructor
  · intro h
    have hfew : log.nextSequence.toNat + new.length < 2 ^ 64 := by
      by_contra hmany
      -- The greatest number was given to a record before.
      have hlt := h (keyOf (following^[new.length - 1] log.nextSequence))
        ((hkeys _).mpr (Or.inr ⟨new.length - 1, by omega, rfl⟩)) (beginsWith_keyOf _)
      rw [keyOf_lt_keyOf, following_iterate_toNat, hlast] at hlt
      omega
    refine ⟨?_, hfew⟩
    rw [show log.nextSequence.toNat + new.length = (following^[new.length] log.nextSequence).toNat by omega]
    exact hall.mp fun k hk => h k ((hkeys k).mpr (Or.inl (hstore ▸ hk)))
  · rintro ⟨h, hfew⟩ k hk hstem
    rw [show log.nextSequence.toNat + new.length = (following^[new.length] log.nextSequence).toNat by omega] at h
    rcases (hkeys k).mp hk with hold | ⟨i, hi, rfl⟩
    · exact hall.mpr h k (hstore ▸ hold) hstem
    · rw [keyOf_lt_keyOf, following_iterate_toNat, hlast]
      omega

/-- The first write to an empty store. -/
theorem first_append_adds_one : ∃ log opened log' appended,
    open? ⟨Store.empty, Faults.none⟩ = .ok (log, opened) ∧
      (log.performAll []).append (epochView "ad") = .ok (log', appended) ∧
      AddsOne (log.performAll []).backend.store (keyOf (log.performAll []).nextSequence) (epochView "ad").encode
        log'.backend.store := by
  refine ⟨_, _, _, _, open?_empty, rfl, (append_adds_one_iff open?_empty List.not_mem_nil rfl).mpr ⟨?_, by decide⟩⟩
  rintro x ⟨⟩

/-- A store with a record under the number 2, in twenty digits, and one under 1, in a single digit. -/
def shortKeyStore : Store :=
  ⟨[("ad_event/00000000000000000002", (epochView "a").encode), ("ad_event/1", (epochView "b").encode)],
    List.pairwise_pair.mpr (by decide)⟩

/-- That store opens as a log that gives the next event the number 2, so the record there is replaced. -/
theorem append_replaces_record : ∃ log opened log' appended,
    open? ⟨shortKeyStore, Faults.none⟩ = .ok (log, opened) ∧ log.append (epochView "c") = .ok (log', appended) ∧
      keyOf log.nextSequence ∈ shortKeyStore.entries.map (·.1) ∧ log'.backend.store.size = shortKeyStore.size := by
  have hscan : shortKeyStore.scan keyStem = shortKeyStore.entries := by
    rw [Store.scan_eq_filter]
    rfl
  have hmap : shortKeyStore.entries.map event? = [epochView "a", epochView "b"].map some := by
    simp [shortKeyStore, event?, Event.decode?_encode]
    decide
  have ho : open? ⟨shortKeyStore, Faults.none⟩ =
      .ok (⟨⟨shortKeyStore, Faults.none⟩, History.ofList [epochView "a", epochView "b"], 2⟩, .logOpened 2) :=
    open?_eq_ok_iff.mpr ⟨rfl, _, hscan ▸ hmap, by decide, by rw [hscan]; rfl, rfl⟩
  refine ⟨_, _, _, _, ho, append_eq_ok_iff.mpr ⟨by decide, rfl, rfl, rfl⟩, ?_, ?_⟩
  · decide
  · decide

end Log
end AdAdmission
