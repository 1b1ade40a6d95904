import Matryoshka.Proofs.Cache.Recency

/-!
# Caches of different room

Two caches of which the same is asked come to hold different entries if one of them has more room:
what is found in one may be missed in the other. That the entries of the smaller one are among those
of the larger one is not kept by itself, because a use may drop an entry of the larger one that the
smaller one has room for. It is kept together with the order of the entries and with the fact that
the two differ only while the smaller one is full (`Within`). So a larger cache never finds less
(`larger_finds_as_much`).
-/

namespace Matryoshka.Cache

variable {κ ν : Type}

/-! ## Lists of entries -/

/-- The beginning of a part of a list is part of the beginning of the list, if the list does not
lose more at its end than the part does. -/
theorem take_sublist_take {α : Type} {part whole : List α} {less more : Nat}
    (sublist : part.Sublist whole) (lost : whole.length - more ≤ part.length - less) :
    (part.take less).Sublist (whole.take more) := by
  have fromEnd (list : List α) (size : Nat) :
      list.take size = (list.reverse.drop (list.length - size)).reverse := by
    rw [List.drop_reverse, List.reverse_reverse]
    rcases Nat.le_total size list.length with inside | beyond
    · rw [Nat.sub_sub_self inside]
    · rw [Nat.sub_eq_zero_of_le beyond, Nat.sub_zero, List.take_length,
        List.take_of_length_le beyond]
  rw [fromEnd part, fromEnd whole]
  have fewer : (part.reverse.drop (part.length - less)).Sublist
      (part.reverse.drop (whole.length - more)) := List.drop_sublist_drop_left _ lost
  exact (fewer.trans (sublist.reverse.drop _)).reverse

variable [DecidableEq κ] {key : κ} {value : ν}

/-- Leaving out a key leaves out one entry at most. -/
theorem length_le_length_without {entries : List (κ × ν)}
    (apart : (entries.map Prod.fst).Nodup) (key : κ) :
    entries.length ≤ (without key entries).length + 1 := by
  induction entries with
  | nil => exact Nat.zero_le _
  | cons entry entries ih =>
    obtain ⟨other, rest⟩ := List.nodup_cons.1 apart
    by_cases own : entry.1 = key
    · have absent : without key entries = entries := without_eq_self (own ▸ other)
      have left : without key (entry :: entries) = without key entries :=
        List.filter_cons_of_neg (by simpa using own)
      exact Nat.le_of_eq (by rw [left, absent, List.length_cons])
    · have kept : without key (entry :: entries) = entry :: without key entries :=
        List.filter_cons_of_pos (by simpa using own)
      rw [kept, List.length_cons, List.length_cons]
      exact Nat.succ_le_succ (ih rest)

/-- Leaving out a key that is there leaves out an entry. -/
theorem length_without_lt {entries : List (κ × ν)} (there : key ∈ entries.map Prod.fst) :
    (without key entries).length < entries.length := by
  obtain ⟨entry, member, own⟩ := List.mem_map.1 there
  exact List.length_filter_lt_length_iff_exists.2 ⟨entry, member, by simpa using own⟩

/-- A key that is not found is not among the keys. -/
theorem not_mem_keys_of_find? {cache : Cache κ ν} (missing : cache.find? key = none) :
    key ∉ cache.entries.map Prod.fst := by
  intro member
  obtain ⟨⟨own, value⟩, there, rfl⟩ := List.mem_map.1 member
  rw [find?, (find?_eq_some_iff cache.nodup_keys).2 there] at missing
  cases missing

/-! ## A smaller cache beside a larger one -/

/-- The entries of a smaller cache are among those of a larger one, in the same order and with the
same values, and they are all of them as long as the smaller one is not full. -/
structure Within (small large : Cache κ ν) : Prop where
  /-- One cache has at most as much room as the other. -/
  room : small.capacity ≤ large.capacity
  /-- Its entries are entries of the other, in the same order. -/
  sublist : small.entries.Sublist large.entries
  /-- It is full, or it has them all. -/
  full : small.entries.length = small.capacity ∨ small.entries = large.entries

namespace Within

variable {small large : Cache κ ν}

/-- What is found in the smaller cache is found in the larger one. -/
theorem find? (within : Within small large) (found : small.find? key = some value) :
    large.find? key = some value :=
  (find?_eq_some_iff large.nodup_keys).2
    (within.sublist.subset ((find?_eq_some_iff small.nodup_keys).1 found))

/-- Storing a value in both caches drops no entry of the larger one that the smaller one keeps. -/
theorem put (within : Within small large) (key : κ) (value : ν) :
    Within (small.put key value) (large.put key value) := by
  have used : ((key, value) :: without key small.entries).Sublist
      ((key, value) :: without key large.entries) := (within.sublist.filter _).cons_cons _
  refine ⟨within.room, ?_, ?_⟩
  · refine take_sublist_take used ?_
    rcases within.full with full | same
    · -- the larger cache loses an entry only if it is full and does not know the key
      have limit := large.length_entries
      by_cases known : key ∈ large.entries.map Prod.fst
      · have fewer := length_without_lt known
        rw [List.length_cons]
        omega
      · have unknown : key ∉ small.entries.map Prod.fst := fun member =>
          known ((within.sublist.map Prod.fst).subset member)
        rw [without_eq_self known, without_eq_self unknown, List.length_cons, List.length_cons,
          full]
        omega
    · rw [same]
      exact Nat.sub_le_sub_left within.room _
  · change (List.take _ _).length = _ ∨ List.take _ _ = List.take _ _
    rcases within.full with full | same
    · have left := length_le_length_without small.nodup_keys key
      refine .inl ?_
      rw [List.length_take, List.length_cons]
      exact Nat.min_eq_left (full ▸ left)
    · rw [same]
      rcases Nat.le_total ((key, value) :: without key large.entries).length small.capacity with
        inside | beyond
      · exact .inr (by
          rw [List.take_of_length_le inside,
            List.take_of_length_le (Nat.le_trans inside within.room)])
      · exact .inl (by rw [List.length_take]; exact Nat.min_eq_left beyond)

/-- Looking a key up in both caches keeps the entries of one among those of the other, also when
only the larger one finds it. -/
theorem get (within : Within small large) (key : κ) :
    Within (small.get key).2 (large.get key).2 := by
  cases inSmall : small.find? key with
  | some value =>
    have used := within.put key value
    rw [Cache.get, inSmall, Cache.get, within.find? inSmall]
    exact ⟨used.room, used.sublist, used.full⟩
  | none =>
    cases inLarge : large.find? key with
    | none =>
      rw [Cache.get, inSmall, Cache.get, inLarge]
      exact ⟨within.room, within.sublist, within.full⟩
    | some value =>
      rw [Cache.get, inSmall, Cache.get, inLarge]
      have there : key ∈ large.entries.map Prod.fst := List.mem_map_of_mem (f := Prod.fst)
        ((find?_eq_some_iff large.nodup_keys).1 inLarge)
      have kept : (large.put key value).entries = (key, value) :: without key large.entries :=
        List.take_of_length_le (Nat.le_trans (length_without_lt there) large.length_entries)
      refine ⟨within.room, ?_, ?_⟩
      · have others : (without key small.entries).Sublist (without key large.entries) :=
          within.sublist.filter _
        rw [without_eq_self (not_mem_keys_of_find? inSmall)] at others
        exact kept ▸ others.cons (key, value)
      · rcases within.full with full | same
        · exact .inl full
        · rw [Cache.find?, same, ← Cache.find?, inLarge] at inSmall
          cases inSmall

/-- Asking the same of both caches keeps the entries of one among those of the other. -/
theorem apply (within : Within small large) (op : Op κ ν) :
    Within (small.apply op) (large.apply op) := by
  cases op with
  | get key => exact within.get key
  | put key value => exact within.put key value
  | clear => exact ⟨within.room, .slnil, .inr rfl⟩

end Within

/-! ## Histories -/

variable {small large : Nat}

/-- After every history the entries of the smaller cache are among those of the larger one. -/
theorem within_after (room : small ≤ large) (ops : List (Op κ ν)) :
    Within (after small ops) (after large ops) := by
  induction ops with
  | nil => exact ⟨room, .slnil, .inr rfl⟩
  | cons op earlier ih => exact ih.apply op

/-- The larger cache finds a value at least as often. -/
theorem countP_isFound_le (room : small ≤ large) (ops : List (Op κ ν)) :
    (deeds small ops).countP Deed.isFound ≤ (deeds large ops).countP Deed.isFound := by
  induction ops with
  | nil => exact Nat.le_refl _
  | cons op earlier ih =>
    rw [deeds, deeds, List.countP_cons, List.countP_cons]
    refine Nat.add_le_add ih ?_
    cases op with
    | get key =>
      cases found : (after small earlier).find? key with
      | some value =>
        have foundToo := (within_after room earlier).find? found
        exact Nat.le_of_eq (by rw [deed_get_of_some found, deed_get_of_some foundToo])
      | none =>
        rw [deed_get_of_none found]
        exact Nat.zero_le _
    | put key value => exact Nat.zero_le _
    | clear => exact Nat.zero_le _

/-- A larger cache never finds less. Whatever is asked of two new caches of which one has at most as
much room as the other, after each part of it the entries of the smaller one, the one used last in
front, are entries of the larger one in the same order and with the same values. What the smaller
one finds under a key the larger one finds, too. So the larger one finds a value at least as often,
and says so as long as no counter has come to `2 ^ 64`. -/
theorem larger_finds_as_much (room : small ≤ large) (ops : List (Op Service.Key Embedding)) :
    (after small ops).entries.Sublist (after large ops).entries ∧
    (∀ key value, ((after small ops).get key).1 = some value →
      ((after large ops).get key).1 = some value) ∧
    (deeds small ops).countP Deed.isFound ≤ (deeds large ops).countP Deed.isFound ∧
    (∀ capacity, (after capacity ops).hits =
      UInt64.ofNat ((deeds capacity ops).countP Deed.isFound)) ∧
    (ops.countP Op.isGet < UInt64.size → (after small ops).hits ≤ (after large ops).hits) := by
  have within := within_after room ops
  have fewer := countP_isFound_le room ops
  refine ⟨within.sublist, fun key value found => ?_, fewer, fun _ => hits_after ops, fun few => ?_⟩
  · rw [get_fst] at found ⊢
    exact within.find? found
  · have gets := countP_isGet large ops
    rw [hits_after, hits_after, UInt64.le_iff_toNat_le,
      UInt64.toNat_ofNat_of_lt' (by omega), UInt64.toNat_ofNat_of_lt' (by omega)]
    exact fewer

/-- Of four keys that are stored, the first is looked up before the last is stored. The cache with
room for two entries misses it, the cache with room for three finds it and keeps it instead of the
second. Both find the third. -/
theorem crowded_finds_as_much :
    let key (text : String) : Service.Key := ⟨text, 2, "mock"⟩
    let ops : List (Op Service.Key Embedding) :=
      [.put (key "d") [4], .get (key "a"), .put (key "c") [3], .put (key "b") [2],
        .put (key "a") [1]]
    (after 2 ops).entries = [(key "d", [4]), (key "c", [3])] ∧
      (after 3 ops).entries = [(key "d", [4]), (key "a", [1]), (key "c", [3])] ∧
      (after 2 ops).entries.Sublist (after 3 ops).entries ∧
      ((after 3 ops).get (key "c")).1 = some [3] ∧ (after 2 ops).hits ≤ (after 3 ops).hits := by
  intro key ops
  have room : 2 ≤ 3 := by decide
  obtain ⟨sublist, found, -, -, counted⟩ := larger_finds_as_much room ops
  exact ⟨rfl, rfl, sublist, found (key "c") [3] rfl, counted (by decide)⟩

end Matryoshka.Cache
