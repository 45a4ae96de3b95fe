/-! The keyed byte store beneath the event log. It writes a value under a key, lists the entries whose
    keys begin with a given text, and removes them. Entries are in ascending order of their keys; the
    order of texts by character is the order of their bytes. An operation of a store may fail, and then
    it leaves the entries as they were. -/

namespace AdAdmission

/-- A value under its key. -/
abbrev Entry := String × ByteArray

/-- The key begins with the given text. -/
def beginsWith (stem key : String) : Bool := stem.toList.isPrefixOf key.toList

/-! ### Entries -/

/-- Entries in strictly ascending order of their keys. -/
structure Store where
  entries : List Entry
  ascending : entries.Pairwise fun a b => a.1 < b.1

namespace Store

/-- The store without entries. -/
def empty : Store := ⟨[], .nil⟩

/-- Puts an entry at its place among others, instead of one with the same key. -/
def insertEntry (e : Entry) : List Entry → List Entry
  | [] => [e]
  | x :: rest =>
    if e.1 < x.1 then e :: x :: rest
    else if e.1 = x.1 then e :: rest
    else x :: insertEntry e rest

theorem mem_insertEntry {e x : Entry} {l : List Entry} (h : x ∈ insertEntry e l) :
    x = e ∨ x ∈ l := by
  induction l with
  | nil => simpa [insertEntry] using h
  | cons y rest ih =>
    unfold insertEntry at h
    split at h
    · simpa using h
    · split at h
      · rcases List.mem_cons.mp h with h | h
        · exact Or.inl h
        · exact Or.inr (List.mem_cons_of_mem _ h)
      · rcases List.mem_cons.mp h with h | h
        · exact Or.inr (h ▸ List.mem_cons_self)
        · exact (ih h).imp id (List.mem_cons_of_mem _)

theorem pairwise_insertEntry {e : Entry} {l : List Entry}
    (h : l.Pairwise fun a b => a.1 < b.1) : (insertEntry e l).Pairwise fun a b => a.1 < b.1 := by
  induction l with
  | nil => exact List.pairwise_singleton _ _
  | cons y rest ih =>
    have hy := List.pairwise_cons.mp h
    unfold insertEntry
    split
    · rename_i hlt
      refine List.pairwise_cons.mpr ⟨fun x hx => ?_, h⟩
      rcases List.mem_cons.mp hx with rfl | hx
      · exact hlt
      · exact String.lt_trans hlt (hy.1 x hx)
    · split
      · rename_i heq
        exact List.pairwise_cons.mpr ⟨fun x hx => heq ▸ hy.1 x hx, hy.2⟩
      · rename_i hlt hne
        refine List.pairwise_cons.mpr ⟨fun x hx => ?_, ih hy.2⟩
        rcases mem_insertEntry hx with rfl | hx
        · rcases Std.lt_trichotomy y.1 x.1 with hgt | heq | hgt
          · exact hgt
          · exact absurd heq.symm hne
          · exact absurd hgt hlt
        · exact hy.1 x hx

/-- Writes a value under a key, instead of any earlier value. -/
def put (s : Store) (key : String) (value : ByteArray) : Store :=
  ⟨insertEntry (key, value) s.entries, pairwise_insertEntry s.ascending⟩

/-- The entries whose keys begin with the given text. They follow one another, the first of them no
    earlier than the text itself, so the search starts there and stops at the first other key. -/
def scan (s : Store) (stem : String) : List Entry :=
  (s.entries.dropWhile fun e => e.1 < stem).takeWhile fun e => beginsWith stem e.1

/-- Removes the entries whose keys begin with the given text. -/
def clear (s : Store) (stem : String) : Store :=
  ⟨s.entries.filter fun e => !beginsWith stem e.1, s.ascending.filter _⟩

/-- The number of entries. -/
def size (s : Store) : Nat := s.entries.length

/-- A store that was filled in the given order. -/
def ofList (entries : List Entry) : Store :=
  entries.foldl (fun s e => s.put e.1 e.2) empty

end Store

/-! ### Failures -/

/-- Why an operation of a store failed. -/
inductive StoreError where
  | unavailable (text : String)
  | io (text : String)
deriving DecidableEq

/-- The wording of a failure. -/
def StoreError.message : StoreError → String
  | unavailable text => "store unavailable: " ++ text
  | io text => "store I/O failure: " ++ text

/-- The failures that the operations of a store currently end in. -/
structure Faults where
  put : Option StoreError
  scan : Option StoreError
  clear : Option StoreError
deriving DecidableEq

/-- No operation fails. -/
def Faults.none : Faults := ⟨.none, .none, .none⟩

/-- A store that may fail. -/
structure Backend where
  store : Store
  faults : Faults

namespace Backend

/-- Writes a value under a key. -/
def put (b : Backend) (key : String) (value : ByteArray) : Except StoreError Backend :=
  match b.faults.put with
  | some e => .error e
  | none => .ok { b with store := b.store.put key value }

/-- The entries whose keys begin with the given text. -/
def scan (b : Backend) (stem : String) : Except StoreError (List Entry) :=
  match b.faults.scan with
  | some e => .error e
  | none => .ok (b.store.scan stem)

/-- Removes the entries whose keys begin with the given text. -/
def clear (b : Backend) (stem : String) : Except StoreError Backend :=
  match b.faults.clear with
  | some e => .error e
  | none => .ok { b with store := b.store.clear stem }

end Backend
end AdAdmission
