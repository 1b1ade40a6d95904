/-!
# A bounded store of what was used last

A cache keeps at most `capacity` entries, the one used last in front. Storing a
value and finding one both use the entry; looking for a key that is not there uses
nothing. When there is no room the entry that has not been used for longest goes.
A cache without capacity keeps nothing.
-/

namespace Matryoshka

/-- Remembered values, bounded in number, ordered by their last use. -/
structure Cache (κ ν : Type) where
  /-- Most entries that are kept. -/
  capacity : Nat
  /-- The entries, the one used last in front. -/
  entries : List (κ × ν)
  /-- How often a key was found, up to a multiple of `2 ^ 64`. -/
  hits : UInt64
  /-- How often a key was not found, up to a multiple of `2 ^ 64`. -/
  misses : UInt64
  /-- There is room for the entries. -/
  length_entries : entries.length ≤ capacity
  /-- No key occurs twice. -/
  nodup_keys : (entries.map Prod.fst).Nodup

namespace Cache

variable {κ ν : Type}

/-- A cache without entries. -/
def empty (capacity : Nat) : Cache κ ν := ⟨capacity, [], 0, 0, by simp, by simp⟩

/-- The number of entries. -/
def size (cache : Cache κ ν) : Nat := cache.entries.length

/-- Forget all entries. -/
def clear (cache : Cache κ ν) : Cache κ ν :=
  ⟨cache.capacity, [], cache.hits, cache.misses, by simp, by simp⟩

variable [DecidableEq κ]

/-- The entries with other keys. -/
def without (key : κ) (entries : List (κ × ν)) : List (κ × ν) :=
  entries.filter fun entry => entry.1 ≠ key

/-- Entries without a key do not hold it. -/
theorem not_mem_keys_without (key : κ) (entries : List (κ × ν)) :
    key ∉ (without key entries).map Prod.fst := by
  simp [without]

/-- Leaving out a key keeps keys apart. -/
theorem nodup_keys_without (key : κ) {entries : List (κ × ν)}
    (apart : (entries.map Prod.fst).Nodup) : ((without key entries).map Prod.fst).Nodup :=
  apart.sublist (List.filter_sublist.map Prod.fst)

/-- The entries after the use of one: it comes first, and the last ones go if there is
no room. -/
def afterUse (capacity : Nat) (key : κ) (value : ν) (entries : List (κ × ν)) : List (κ × ν) :=
  ((key, value) :: without key entries).take capacity

/-- A use keeps keys apart. -/
theorem nodup_keys_afterUse (capacity : Nat) (key : κ) (value : ν) {entries : List (κ × ν)}
    (apart : (entries.map Prod.fst).Nodup) :
    ((afterUse capacity key value entries).map Prod.fst).Nodup := by
  refine List.Nodup.sublist ((List.take_sublist _ _).map Prod.fst) ?_
  rw [List.map_cons, List.nodup_cons]
  exact ⟨not_mem_keys_without key entries, nodup_keys_without key apart⟩

/-- The value of a key. -/
def find? (cache : Cache κ ν) (key : κ) : Option ν :=
  (cache.entries.find? fun entry => entry.1 = key).map Prod.snd

/-- Store the value of a key. -/
def put (cache : Cache κ ν) (key : κ) (value : ν) : Cache κ ν where
  capacity := cache.capacity
  entries := afterUse cache.capacity key value cache.entries
  hits := cache.hits
  misses := cache.misses
  length_entries := List.length_take_le _ _
  nodup_keys := nodup_keys_afterUse _ _ _ cache.nodup_keys

/-- Look for the value of a key, and count whether it was there. -/
def get (cache : Cache κ ν) (key : κ) : Option ν × Cache κ ν :=
  match cache.find? key with
  | some value => (some value, { cache.put key value with hits := cache.hits + 1 })
  | none => (none, { cache with misses := cache.misses + 1 })

end Cache

end Matryoshka
