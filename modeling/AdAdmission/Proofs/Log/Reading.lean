import Mathlib
import AdAdmission.Proofs.History.Positions
import AdAdmission.Proofs.Log.Queries

/-! Queries that read events by their positions. It is an error here to read at a position that has no event, or to
    begin a list behind its end, and the first event of a window is found by halving the list of positions. On every
    log that operations lead to, the indexes share out the positions of the events. So no query meets an error, and
    its answer is the one that passing over the positions without an event would give. -/

namespace AdAdmission
namespace History

/-! ### Reading -/

/-- The event at a position. The position is the error when it is out of range. -/
def read (h : History) (i : Nat) : Except Nat Event :=
  match h.events[i]? with
  | some e => .ok e
  | none => .error i

/-- The event of the position at a place of a list. The place is the error when it is out of range. -/
def readAt (h : History) (ps : List Nat) (place : Nat) : Except Nat Event :=
  match ps[place]? with
  | some i => h.read i
  | none => .error place

/-- The place from `low` to `high` at which the events that pass the test end, when these come first. -/
def partitionPoint (h : History) (test : Event → Bool) (ps : List Nat) (low high : Nat) : Except Nat Nat :=
  if low < high then do
    let e ← h.readAt ps ((low + high) / 2)
    if test e then h.partitionPoint test ps ((low + high) / 2 + 1) high
    else h.partitionPoint test ps low ((low + high) / 2)
  else .ok low
termination_by high - low

/-- Counts the events of the confirmation, where one is given, from the first one on that is not too early. -/
def countFrom (h : History) (ps : List Nat) (confirmation : Option ConfirmationKind) (since : Instant) :
    Except Nat Nat := do
  let start ← h.partitionPoint (fun e => e.timestamp < since) ps 0 ps.length
  if ps.length < start then .error start
  else
    let found ← (ps.drop start).mapM h.read
    return found.countP (·.isOf none confirmation)

/-- The first of the events at the positions that is of the confirmation, where one is given. -/
def findMatch (h : History) (confirmation : Option ConfirmationKind) : List Nat → Except Nat (Option Event)
  | [] => .ok none
  | i :: ps => do
    let e ← h.read i
    if e.isOf none confirmation then return some e else h.findMatch confirmation ps

/-- What a history answers when it reads events by their positions. -/
def answerByPosition (h : History) : Query → Except Nat Nat
  | .surface kind confirmation since => do
    let counts ← (scope kind).mapM fun k => h.countFrom (h.byKind.positions k) confirmation since
    return counts.sum
  | .ad adIdentifier confirmation since => do
    let found ← (h.byAd.positions adIdentifier).mapM h.read
    return countAmong found confirmation since
  | .creativeSet creativeSetId confirmation since => do
    let found ← (h.bySet.positions creativeSetId).mapM h.read
    return countAmong found confirmation since

/-- The latest event, when each surface is searched by positions from its end. -/
def mostRecentByPosition (h : History) (kind : Option AdKind) (confirmation : Option ConfirmationKind) :
    Except Nat (Option Event) := do
  let found ← (scope kind).mapM fun k => h.findMatch confirmation (h.byKind.positions k).reverse
  return found.reduceOption.foldl later none

/-- The timestamp at the last position of a surface. -/
def lastTimestampByPosition (h : History) (kind : AdKind) : Except Nat (Option Instant) :=
  match (h.byKind.positions kind).getLast? with
  | some i => do
    let e ← h.read i
    return some e.timestamp
  | none => .ok none

/-! ### Positions in range -/

section
variable {h : History} {ps : List Nat} {events : List Event}

theorem ok_bind {α β : Type} (a : α) (f : α → Except Nat β) : (Except.ok a >>= f) = f a := rfl

theorem read_eq_ok_iff {i : Nat} {e : Event} : h.read i = .ok e ↔ h.events[i]? = some e := by
  rw [read]
  cases h.events[i]? <;> simp

theorem map_read (hps : ∀ i ∈ ps, i < h.events.toList.length) :
    ps.map h.read = (h.eventsAt ps).map Except.ok := by
  induction ps with
  | nil => rfl
  | cons i ps ih =>
    obtain ⟨hi, hps⟩ := List.forall_mem_cons.mp hps
    have he : h.events[i]? = some h.events[i] := Array.getElem?_eq_getElem hi
    have hcons : h.eventsAt (i :: ps) = h.events[i] :: h.eventsAt ps := List.filterMap_cons_some he
    rw [List.map_cons, ih hps, read_eq_ok_iff.mpr he, hcons, List.map_cons]

variable (hread : ps.map h.read = events.map Except.ok)
include hread

theorem mapM_read : ps.mapM h.read = .ok events :=
  calc ps.mapM h.read = (ps.map h.read).mapM id := by rw [List.mapM_map]; rfl
    _ = (events.map Except.ok).mapM id := by rw [hread]
    _ = events.mapM fun e => pure e := by rw [List.mapM_map]; rfl
    _ = .ok events := by rw [List.mapM_pure, List.map_id']; rfl

theorem readAt_eq {place : Nat} {e : Event} (he : events[place]? = some e) : h.readAt ps place = .ok e := by
  have hplace : (ps.map h.read)[place]? = some (.ok e) := by rw [hread, List.getElem?_map, he]; rfl
  rw [List.getElem?_map] at hplace
  obtain ⟨i, hi, hok⟩ := Option.map_eq_some_iff.mp hplace
  rw [readAt, hi]
  exact hok

theorem partitionPoint_eq {test : Event → Bool} (hlead : Ordered.Leading test events) {low high : Nat}
    (hlow : low ≤ events.findIdx fun e => !test e) (hhigh : (events.findIdx fun e => !test e) ≤ high)
    (hlen : high ≤ events.length) :
    h.partitionPoint test ps low high = .ok (events.findIdx fun e => !test e) := by
  -- The end stays between `low` and `high`, so the event in the middle is always there to be read.
  induction hn : high - low using Nat.strong_induction_on generalizing low high with
  | _ n ih =>
    rw [partitionPoint]
    split
    · rename_i hlt
      have he : events[(low + high) / 2]? = some events[(low + high) / 2] := List.getElem?_eq_getElem (by omega)
      have hpass := Ordered.lt_findIdx_iff hlead he
      rw [readAt_eq hread he, ok_bind]
      split
      · rename_i htest
        exact ih _ (by omega) (hpass.mpr htest) hhigh hlen rfl
      · rename_i htest
        exact ih _ (by omega) hlow (Nat.le_of_not_lt (mt hpass.mp htest)) (by omega) rfl
    · rw [show low = events.findIdx fun e => !test e by omega]

theorem countFrom_eq {confirmation : Option ConfirmationKind} {since : Instant}
    (hlead : Ordered.Leading (fun e : Event => decide (e.timestamp < since)) events) :
    h.countFrom ps confirmation since =
      .ok ((events.dropWhile fun e => e.timestamp < since).countP (·.isOf none confirmation)) := by
  have hlen : ps.length = events.length := by simpa using congrArg List.length hread
  have hstart := partitionPoint_eq hread hlead (Nat.zero_le _) List.findIdx_le_length (Nat.le_refl _)
  have hrest : (ps.drop (events.findIdx fun e => !decide (e.timestamp < since))).map h.read =
      (events.dropWhile fun e => e.timestamp < since).map Except.ok := by
    rw [List.map_drop, hread, List.dropWhile_eq_drop_findIdx_not, List.map_drop]
  rw [countFrom, hlen, hstart, ok_bind, if_neg (Nat.not_lt.mpr List.findIdx_le_length), mapM_read hrest]
  rfl

theorem findMatch_eq (confirmation : Option ConfirmationKind) :
    h.findMatch confirmation ps = .ok (events.find? (·.isOf none confirmation)) := by
  induction ps generalizing events with
  | nil =>
    obtain rfl : events = [] := by simpa using hread.symm
    rfl
  | cons i ps ih =>
    cases events with
    | nil => cases hread
    | cons e events =>
      obtain ⟨he, hrest⟩ := List.cons.inj hread
      rw [findMatch, he, ok_bind, List.find?_cons]
      cases e.isOf none confirmation
      · exact ih hrest
      · rfl

end

/-! ### Queries -/

section
variable {h : History}

theorem Indexed.map_read_byKind (hi : h.Indexed) (kind : AdKind) :
    (h.byKind.positions kind).map h.read = (h.ofKind kind).map Except.ok :=
  map_read fun _ => hi.byKind.lt_of_mem_positions

theorem Indexed.map_read_byAd (hi : h.Indexed) (adIdentifier : String) :
    (h.byAd.positions adIdentifier).map h.read = (h.ofAd adIdentifier).map Except.ok :=
  map_read fun _ => hi.byAd.lt_of_mem_positions

theorem Indexed.map_read_bySet (hi : h.Indexed) (creativeSetId : String) :
    (h.bySet.positions creativeSetId).map h.read = (h.ofSet creativeSetId).map Except.ok :=
  map_read fun _ => hi.bySet.lt_of_mem_positions

theorem Indexed.mostRecentByPosition_eq (hi : h.Indexed) (kind : Option AdKind)
    (confirmation : Option ConfirmationKind) :
    h.mostRecentByPosition kind confirmation = .ok (h.mostRecent? kind confirmation) := by
  have hfind : (fun k => h.findMatch confirmation (h.byKind.positions k).reverse) =
      fun k => pure ((h.ofKind k).reverse.find? (·.isOf none confirmation)) := funext fun k =>
    findMatch_eq (by rw [List.map_reverse, hi.map_read_byKind, List.map_reverse]) confirmation
  rw [mostRecentByPosition, hfind, List.mapM_pure, pure_bind, List.reduceOption, List.filterMap_map]
  rfl

theorem Indexed.lastTimestampByPosition_eq (hi : h.Indexed) (kind : AdKind) :
    h.lastTimestampByPosition kind = .ok (h.lastTimestamp? kind) := by
  have hlast := congrArg List.getLast? (hi.map_read_byKind kind)
  rw [List.getLast?_map, List.getLast?_map] at hlast
  rw [lastTimestampByPosition, lastTimestamp?]
  cases hp : (h.byKind.positions kind).getLast? with
  | none =>
    rw [hp, eq_comm, Option.map_none, Option.map_eq_none_iff] at hlast
    rw [hlast]
    rfl
  | some i =>
    rw [hp, eq_comm, Option.map_some, Option.map_eq_some_iff] at hlast
    obtain ⟨e, he, hread⟩ := hlast
    rw [he]
    dsimp only
    rw [← hread]
    rfl

end

theorem answerByPosition_ofList {l : List Event} (h : Chronological l) (q : Query) :
    (ofList l).answerByPosition q = .ok ((ofList l).answer q) := by
  have hi := indexed_ofList l
  cases q with
  | surface kind confirmation since =>
    have hcount : (fun k => (ofList l).countFrom ((ofList l).byKind.positions k) confirmation since) = fun k =>
        pure ((((ofList l).ofKind k).dropWhile fun e => e.timestamp < since).countP (·.isOf none confirmation)) :=
      funext fun k => countFrom_eq (hi.map_read_byKind k) (by
        rw [ofKind_ofList]
        exact leading_ofKind h k since)
    rw [answerByPosition, hcount, List.mapM_pure, pure_bind, answer, countSince, List.countP_flatMap]
    rfl
  | ad adIdentifier confirmation since =>
    rw [answerByPosition, mapM_read (hi.map_read_byAd adIdentifier)]
    rfl
  | creativeSet creativeSetId confirmation since =>
    rw [answerByPosition, mapM_read (hi.map_read_bySet creativeSetId)]
    rfl

end History

namespace Log
open History

/-- On a log that was opened on some store, after whatever was done to it, each index shares out the positions of the
    events among its keys: a list is ascending, not empty and in range, it has the positions of the events of its key
    and no others, and every position stands in just one list. So no query reads out of range: where that is an
    error, each still gives its answer. -/
theorem positions_shared_out {log : Log} (h : log.Reachable) :
    log.history.Indexed ∧
      (∀ q, log.history.answerByPosition q = .ok (log.history.answer q)) ∧
      (∀ kind confirmation, log.history.mostRecentByPosition kind confirmation =
        .ok (log.history.mostRecent? kind confirmation)) ∧
      ∀ kind, log.history.lastTimestampByPosition kind = .ok (log.history.lastTimestamp? kind) := by
  obtain ⟨events, hholds⟩ := h.exists_holds
  rw [hholds.history]
  have hi := indexed_ofList events
  exact ⟨hi, answerByPosition_ofList hholds.chronological, hi.mostRecentByPosition_eq, hi.lastTimestampByPosition_eq⟩

/-- Two views of a notification with an earlier one of promoted content between them, and then a view that the store
    cannot write. The halving passes over the earlier view. -/
theorem positions_of_two_surfaces : ∃ log, fresh.performAll [.append (epochView "ad"), .append earliestView,
      .append (epochView "ad"), .setFaults ⟨some (.io "full"), none, none⟩, .append (epochView "other")] = log ∧
    log.history.byAd = [("ad", [0, 2]), ("other", [1])] ∧ log.history.Indexed ∧
      log.history.answerByPosition (.surface none (some .viewed) Instant.epoch) = .ok 2 ∧
      log.history.lastTimestampByPosition .promotedContent = .ok (some Instant.earliest) := by
  have h := positions_shared_out (reachable_fresh [.append (epochView "ad"), .append earliestView,
    .append (epochView "ad"), .setFaults ⟨some (.io "full"), none, none⟩, .append (epochView "other")])
  refine ⟨_, rfl, rfl, h.1, (h.2.1 _).trans (congrArg Except.ok ?_), (h.2.2.2 _).trans (congrArg Except.ok ?_)⟩
  · decide
  · decide

end Log
end AdAdmission
