/-!
# Recency lists

A store of a fixed number of entries under keys. The entries are kept in the order of their last
use, the latest first, and a new entry in a full store takes the place of the one that has been
unused longest.

It stands for a least-recently-used cache (`LruCache`) that is taken ready made and whose making is
none of the concerns here. What is relied on is what such a cache promises, stated as the laws at
the end of this module. Proofs elsewhere use these laws and not the entries:

* `put` brings an entry in, which is found from then on (`peek_put_self`), and changes no entry
  under another key, though it may drop one (`peek_of_peek_put`);
* `put` moves its key to the front and drops the last keys if there is no room for all (`keys_put`);
* `get` finds what is there, and finding it is a use of it (`get_of_peek_eq_some`); where there is
  nothing, it changes nothing (`get_of_peek_eq_none`);
* a new store is empty (`peek_empty`, `keys_empty`), and so is a store that has been cleared
  (`peek_clear`, `keys_clear`), which has room for as many entries as before (`capacity_clear`).
-/

namespace Formulary

/-- Entries in the order of their last use, the latest first. -/
structure Recency (κ α : Type) where
  /-- The largest number of entries. -/
  capacity : Nat
  /-- The entries with their keys. -/
  entries : List (κ × α)
  /-- There is room for an entry. -/
  capacity_pos : 0 < capacity
  /-- There are no more entries than there is room for. -/
  length_le : entries.length ≤ capacity
  /-- No key has two entries. -/
  nodup_entries : (entries.map (·.1)).Nodup

namespace Recency

variable {κ α : Type}

/-- A store without entries. -/
def empty (capacity : Nat) (h : 0 < capacity) : Recency κ α where
  capacity := capacity
  entries := []
  capacity_pos := h
  length_le := Nat.zero_le _
  nodup_entries := List.nodup_nil

/-- The keys, the latest used first. -/
def keys (r : Recency κ α) : List κ := r.entries.map (·.1)

/-- The number of entries. -/
def size (r : Recency κ α) : Nat := r.entries.length

/-- Whether there are no entries. -/
def isEmpty (r : Recency κ α) : Bool := r.entries.isEmpty

/-- Drops all entries. -/
def clear (r : Recency κ α) : Recency κ α := empty r.capacity r.capacity_pos

variable [DecidableEq κ]

/-- The entry under a key. Looking at it is no use of it. -/
def peek (r : Recency κ α) (k : κ) : Option α := r.entries.lookup k

/-- The entries under other keys than `k`. -/
def others (r : Recency κ α) (k : κ) : List (κ × α) := r.entries.filter fun e => e.1 ≠ k

theorem nodup_cons_others (r : Recency κ α) (k : κ) (a : α) :
    (((k, a) :: r.others k).map (·.1)).Nodup := by
  rw [List.map_cons, List.nodup_cons]
  constructor
  · intro h
    obtain ⟨e, he, hk⟩ := List.mem_map.1 h
    have := (List.mem_filter.1 he).2
    simp [hk] at this
  · exact List.Nodup.sublist (List.filter_sublist.map _) r.nodup_entries

/-- Puts an entry first, in place of an entry under the same key, and drops the last entry if there
is no room for all. -/
def put (r : Recency κ α) (k : κ) (a : α) : Recency κ α where
  capacity := r.capacity
  entries := ((k, a) :: r.others k).take r.capacity
  capacity_pos := r.capacity_pos
  length_le := List.length_take_le _ _
  nodup_entries := List.Nodup.sublist ((List.take_sublist _ _).map _) (r.nodup_cons_others k a)

/-- The entry under a key, and the store in which it is the first. -/
def get (r : Recency κ α) (k : κ) : Option α × Recency κ α :=
  match r.peek k with
  | some a => (some a, r.put k a)
  | none => (none, r)

/-! ### Entries -/

theorem peek_eq_some_iff {r : Recency κ α} {k : κ} {a : α} :
    r.peek k = some a ↔ (k, a) ∈ r.entries := by
  constructor
  · intro h
    obtain ⟨es, fs, he, -⟩ := List.lookup_eq_some_iff.1 h
    rw [he]
    exact List.mem_append_right _ List.mem_cons_self
  · intro h
    obtain ⟨es, fs, he⟩ := List.append_of_mem h
    have hnodup := r.nodup_entries
    rw [he, List.map_append, List.nodup_append] at hnodup
    have hes : es.lookup k = none := by
      rw [List.lookup_eq_none_iff]
      intro e hmem
      have hne := hnodup.2.2 e.1 (List.mem_map_of_mem hmem) k (by simp)
      exact bne_iff_ne.2 hne.symm
    rw [peek, he, List.lookup_append, hes, List.lookup_cons_self]
    rfl

theorem entries_put (r : Recency κ α) (k : κ) (a : α) :
    (r.put k a).entries = (k, a) :: (r.others k).take (r.capacity - 1) := by
  show ((k, a) :: r.others k).take r.capacity = _
  obtain ⟨n, hn⟩ : ∃ n, r.capacity = n + 1 := ⟨r.capacity - 1, by have := r.capacity_pos; omega⟩
  rw [hn, List.take_succ_cons, Nat.add_sub_cancel]

/-! ### The laws of a store -/

/-- What was put last is found. -/
@[simp] theorem peek_put_self (r : Recency κ α) (k : κ) (a : α) : (r.put k a).peek k = some a := by
  rw [peek, entries_put, List.lookup_cons_self]

/-- What is found under another key than the last put one was found there before. -/
theorem peek_of_peek_put {r : Recency κ α} {k k' : κ} {a b : α} (hk : k' ≠ k)
    (h : (r.put k a).peek k' = some b) : r.peek k' = some b := by
  rw [peek_eq_some_iff] at h ⊢
  rw [entries_put] at h
  rcases List.mem_cons.1 h with h | h
  · exact absurd (congrArg Prod.fst h) hk
  · exact (List.mem_filter.1 (List.mem_of_mem_take h)).1

/-- What is found has just been put, or was found before. -/
theorem eq_or_peek_of_peek_put {r : Recency κ α} {k k' : κ} {a b : α}
    (h : (r.put k a).peek k' = some b) : (k' = k ∧ b = a) ∨ r.peek k' = some b := by
  by_cases hk : k' = k
  · subst hk
    exact .inl ⟨rfl, (Option.some.inj ((peek_put_self ..).symm.trans h)).symm⟩
  · exact .inr (peek_of_peek_put hk h)

/-- What is put moves its key to the front, and the keys that do not fit are dropped. -/
theorem keys_put (r : Recency κ α) (k : κ) (a : α) :
    (r.put k a).keys = (k :: r.keys.filter (· ≠ k)).take r.capacity := by
  show (((k, a) :: r.others k).take r.capacity).map (·.1) = _
  rw [List.map_take, List.map_cons, others, keys, List.filter_map]
  rfl

@[simp] theorem capacity_put (r : Recency κ α) (k : κ) (a : α) :
    (r.put k a).capacity = r.capacity := rfl

/-- What is found counts as put again. -/
theorem get_of_peek_eq_some {r : Recency κ α} {k : κ} {a : α} (h : r.peek k = some a) :
    r.get k = (some a, r.put k a) := by
  rw [get, h]

/-- Where nothing is found, nothing changes. -/
theorem get_of_peek_eq_none {r : Recency κ α} {k : κ} (h : r.peek k = none) :
    r.get k = (none, r) := by
  rw [get, h]

/-- There is something under the keys, and under nothing else. -/
theorem peek_eq_none_iff {r : Recency κ α} {k : κ} : r.peek k = none ↔ k ∉ r.keys := by
  rw [peek, List.lookup_eq_none_iff, keys, List.mem_map]
  constructor
  · rintro h ⟨e, he, rfl⟩
    simpa using h e he
  · intro h e he
    by_cases hk : k = e.1
    · exact absurd ⟨e, he, hk.symm⟩ h
    · simpa using hk

@[simp] theorem peek_empty (n : Nat) (h : 0 < n) (k : κ) :
    (empty n h : Recency κ α).peek k = none := rfl

@[simp] theorem peek_clear (r : Recency κ α) (k : κ) : r.clear.peek k = none := rfl

omit [DecidableEq κ]

@[simp] theorem keys_empty (n : Nat) (h : 0 < n) : (empty n h : Recency κ α).keys = [] := rfl

@[simp] theorem keys_clear (r : Recency κ α) : r.clear.keys = [] := rfl

@[simp] theorem capacity_clear (r : Recency κ α) : r.clear.capacity = r.capacity := rfl

/-- No key stands for two entries. -/
theorem nodup_keys (r : Recency κ α) : r.keys.Nodup := r.nodup_entries

theorem length_keys (r : Recency κ α) : r.keys.length = r.size := List.length_map _

theorem isEmpty_iff {r : Recency κ α} : r.isEmpty = true ↔ r.size = 0 :=
  List.isEmpty_iff_length_eq_zero

end Recency

end Formulary
