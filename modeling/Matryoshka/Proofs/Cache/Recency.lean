import Mathlib.Data.List.Dedup
import Mathlib.Data.List.Nodup
import Matryoshka.Service.State

/-!
# What a cache holds

A cache is the beginning of a list without bound: all keys that were used since the cache was
cleared, the one used last in front (`entries_after`). In that list a key stands behind exactly
those that were used after it. So what is found under a key follows from the history alone: the
value stored last, unless as many other keys as the cache has room for were used since the key
was used last (`find?_after_iff`).
-/

namespace Matryoshka.Cache

variable {κ ν : Type}

/-! ## Histories -/

/-- Something that is asked of a cache. -/
inductive Op (κ ν : Type) where
  /-- Look for the value of a key. -/
  | get (key : κ)
  /-- Store the value of a key. -/
  | put (key : κ) (value : ν)
  /-- Forget everything. -/
  | clear

/-- What something that was asked of a cache has come to. -/
inductive Deed (κ ν : Type) where
  /-- The value of a key was found. -/
  | found (key : κ) (value : ν)
  /-- No value of a key was found. -/
  | missed (key : κ)
  /-- The value of a key was stored. -/
  | stored (key : κ) (value : ν)
  /-- Everything was forgotten. -/
  | cleared

/-- Whether something asked is to look for a value. -/
def Op.isGet : Op κ ν → Bool
  | .get _ => true
  | _ => false

namespace Deed

/-- The key that was used: one that was found or stored. -/
def used? : Deed κ ν → Option κ
  | .found key _ | .stored key _ => some key
  | .missed _ | .cleared => none

/-- What was stored. -/
def stored? : Deed κ ν → Option (κ × ν)
  | .stored key value => some (key, value)
  | _ => none

/-- Whether everything was forgotten. -/
def isCleared : Deed κ ν → Bool
  | .cleared => true
  | _ => false

/-- Whether a value was found. -/
def isFound : Deed κ ν → Bool
  | .found _ _ => true
  | _ => false

/-- Whether no value was found. -/
def isMissed : Deed κ ν → Bool
  | .missed _ => true
  | _ => false

end Deed

/-- What was stored since everything was forgotten, the latest in front. -/
def storedSince (deeds : List (Deed κ ν)) : List (κ × ν) :=
  (deeds.takeWhile fun deed => !deed.isCleared).filterMap Deed.stored?

variable [DecidableEq κ]

/-- The value of a key that was stored last since everything was forgotten. -/
def latest? (key : κ) (deeds : List (Deed κ ν)) : Option ν :=
  ((storedSince deeds).find? fun entry => entry.1 = key).map Prod.snd

/-- The keys used since a key was used last, the latest in front. -/
def usedSince (key : κ) (deeds : List (Deed κ ν)) : List κ :=
  (deeds.takeWhile fun deed => deed.used? ≠ some key).filterMap Deed.used?

/-- The cache after something was asked of it. -/
def apply (cache : Cache κ ν) : Op κ ν → Cache κ ν
  | .get key => (cache.get key).2
  | .put key value => cache.put key value
  | .clear => cache.clear

/-- What something asked of a cache comes to. -/
def deed (cache : Cache κ ν) : Op κ ν → Deed κ ν
  | .get key =>
    match (cache.get key).1 with
    | some value => .found key value
    | none => .missed key
  | .put key value => .stored key value
  | .clear => .cleared

/-- A new cache after all that was asked of it, the latest in front. -/
def after (capacity : Nat) : List (Op κ ν) → Cache κ ν
  | [] => empty capacity
  | op :: earlier => (after capacity earlier).apply op

/-- What all that was asked of a new cache has come to, the latest in front. -/
def deeds (capacity : Nat) : List (Op κ ν) → List (Deed κ ν)
  | [] => []
  | op :: earlier => (after capacity earlier).deed op :: deeds capacity earlier

/-! ## Lists of entries -/

section Entries

variable {entries : List (κ × ν)} {key : κ} {value : ν}

/-- Under keys that differ, an entry that is there is the one that is found. -/
theorem find?_eq_some_iff (apart : (entries.map Prod.fst).Nodup) :
    (entries.find? fun entry => entry.1 = key).map Prod.snd = some value ↔
      (key, value) ∈ entries := by
  constructor
  · intro found
    obtain ⟨entry, first, rfl⟩ := Option.map_eq_some_iff.1 found
    have own : entry.1 = key := by simpa using List.find?_some first
    exact own ▸ List.mem_of_find?_eq_some first
  · intro member
    induction entries with
    | nil => cases member
    | cons entry entries ih =>
      obtain ⟨other, rest⟩ := List.nodup_cons.1 apart
      rcases List.mem_cons.1 member with rfl | later
      · simp
      · have differs : entry.1 ≠ key := fun same =>
          other (same ▸ List.mem_map_of_mem (f := Prod.fst) later)
        rw [List.find?_cons_of_neg (by simpa using differs)]
        exact ih rest later

/-- Leaving out a key that is not there changes nothing. -/
theorem without_eq_self (absent : key ∉ entries.map Prod.fst) : without key entries = entries := by
  rw [without, List.filter_eq_self]
  intro entry member
  have differs : entry.1 ≠ key := fun same => absent (same ▸ List.mem_map_of_mem member)
  simpa using differs

/-- To leave out a key and keep so many entries, so many and one more are enough to begin
with. -/
theorem take_without (apart : (entries.map Prod.fst).Nodup) (size : Nat) :
    (without key (entries.take (size + 1))).take size = (without key entries).take size := by
  induction entries generalizing size with
  | nil => rfl
  | cons entry entries ih =>
    obtain ⟨other, rest⟩ := List.nodup_cons.1 apart
    rw [List.take_succ_cons]
    by_cases own : entry.1 = key
    · have absent : key ∉ entries.map Prod.fst := own ▸ other
      have absentToo : key ∉ (entries.take size).map Prod.fst := fun member =>
        absent ((List.take_sublist size entries).map Prod.fst |>.subset member)
      have drop (rest : List (κ × ν)) : without key (entry :: rest) = without key rest := by
        simp [without, own]
      rw [drop, drop, without_eq_self absent, without_eq_self absentToo, List.take_take,
        Nat.min_self]
    · have keep (rest : List (κ × ν)) :
          without key (entry :: rest) = entry :: without key rest := by
        simp [without, own]
      rw [keep, keep]
      cases size with
      | zero => rfl
      | succ size => rw [List.take_succ_cons, List.take_succ_cons, ih rest]

/-- A use sees no entry beyond the room of the cache. -/
theorem afterUse_take (apart : (entries.map Prod.fst).Nodup) (capacity : Nat) :
    afterUse capacity key value (entries.take capacity) =
      ((key, value) :: without key entries).take capacity := by
  cases capacity with
  | zero => rfl
  | succ size => rw [afterUse, List.take_succ_cons, List.take_succ_cons, take_without apart]

/-- An entry is among the first ones exactly if few enough stand before its key. -/
theorem mem_take_iff (apart : (entries.map Prod.fst).Nodup) (size : Nat) :
    (key, value) ∈ entries.take size ↔ (key, value) ∈ entries ∧
      (entries.takeWhile fun entry => entry.1 ≠ key).length < size := by
  induction entries generalizing size with
  | nil => simp
  | cons entry entries ih =>
    obtain ⟨other, rest⟩ := List.nodup_cons.1 apart
    cases size with
    | zero => simp
    | succ size =>
      rw [List.take_succ_cons, List.mem_cons, List.mem_cons]
      by_cases own : entry.1 = key
      · have absent (list : List (κ × ν)) (part : list.Sublist entries) :
            (key, value) ∉ list := fun member =>
          other (own ▸ (part.map Prod.fst).subset (List.mem_map_of_mem (f := Prod.fst) member))
        simp [own, absent _ (List.take_sublist size entries), absent _ (List.Sublist.refl entries)]
      · have differs : (key, value) ≠ entry := fun same => own (same ▸ rfl)
        rw [ih rest]
        simp [own, differs]

/-- Leaving out a key commutes with taking all that stands before another one. -/
theorem takeWhile_without {other : κ} (differ : other ≠ key) (entries : List (κ × ν)) :
    ((without other entries).takeWhile fun entry => entry.1 ≠ key) =
      without other (entries.takeWhile fun entry => entry.1 ≠ key) := by
  induction entries with
  | nil => rfl
  | cons entry entries ih =>
    unfold without at ih ⊢
    by_cases own : entry.1 = other
    · rw [List.filter_cons_of_neg (by simpa using own),
        List.takeWhile_cons_of_pos (by simpa [own] using differ),
        List.filter_cons_of_neg (by simpa using own), ih]
    · rw [List.filter_cons_of_pos (by simpa using own)]
      by_cases end_ : entry.1 = key
      · rw [List.takeWhile_cons_of_neg (by simpa using end_),
          List.takeWhile_cons_of_neg (by simpa using end_), List.filter_nil]
      · rw [List.takeWhile_cons_of_pos (by simpa using end_),
          List.takeWhile_cons_of_pos (by simpa using end_),
          List.filter_cons_of_pos (by simpa using own), ih]

/-- What is left without a key is what was there under other keys. -/
theorem mem_without_iff {other : κ} :
    (key, value) ∈ without other entries ↔ key ≠ other ∧ (key, value) ∈ entries := by
  simp [without, and_comm]

/-- The keys that are left without a key are the others. -/
theorem mem_keys_without_iff {other : κ} :
    key ∈ (without other entries).map Prod.fst ↔ key ≠ other ∧ key ∈ entries.map Prod.fst := by
  simp [without, and_comm]

end Entries

/-! ## All that was used -/

/-- All keys used since everything was forgotten, with their values, the one used last in
front. -/
def recency : List (Deed κ ν) → List (κ × ν)
  | [] => []
  | .found key value :: earlier | .stored key value :: earlier =>
    (key, value) :: without key (recency earlier)
  | .missed _ :: earlier => recency earlier
  | .cleared :: _ => []

/-- A key is used last once. -/
theorem nodup_keys_recency (deeds : List (Deed κ ν)) : ((recency deeds).map Prod.fst).Nodup := by
  induction deeds with
  | nil => exact List.nodup_nil
  | cons deed earlier ih =>
    have use (key : κ) (value : ν) :
        (((key, value) :: without key (recency earlier)).map Prod.fst).Nodup :=
      List.nodup_cons.2 ⟨not_mem_keys_without key _, nodup_keys_without key ih⟩
    cases deed with
    | found key value => exact use key value
    | stored key value => exact use key value
    | missed key => exact ih
    | cleared => exact List.nodup_nil

/-- Before a key stand exactly those that were used after it. -/
theorem mem_keys_takeWhile_iff {key : κ} {deeds : List (Deed κ ν)}
    (there : key ∈ (recency deeds).map Prod.fst) (other : κ) :
    other ∈ ((recency deeds).takeWhile fun entry => entry.1 ≠ key).map Prod.fst ↔
      other ∈ usedSince key deeds := by
  induction deeds with
  | nil => cases there
  | cons deed earlier ih =>
    have use (first : κ) (value : ν) (used : deed.used? = some first)
        (own : recency (deed :: earlier) = (first, value) :: without first (recency earlier)) :
        other ∈ ((recency (deed :: earlier)).takeWhile fun entry => entry.1 ≠ key).map Prod.fst ↔
          other ∈ usedSince key (deed :: earlier) := by
      rw [own] at there ⊢
      by_cases same : first = key
      · simp [usedSince, used, same]
      · have before : key ∈ (recency earlier).map Prod.fst := by
          rcases List.mem_cons.1 there with here | later
          · exact absurd here.symm same
          · exact (mem_keys_without_iff.1 later).2
        have since : usedSince key (deed :: earlier) = first :: usedSince key earlier := by
          simp [usedSince, used, same]
        rw [List.takeWhile_cons_of_pos (by simpa using same), takeWhile_without same,
          List.map_cons, List.mem_cons, mem_keys_without_iff, ih before, since, List.mem_cons]
        tauto
    cases deed with
    | found first value => exact use first value rfl rfl
    | stored first value => exact use first value rfl rfl
    | missed first =>
      have since : usedSince key (.missed first :: earlier) = usedSince key earlier := by
        rw [usedSince, List.takeWhile_cons_of_pos (by simp [Deed.used?]),
          List.filterMap_cons_none rfl, usedSince]
      rw [since]
      exact ih there
    | cleared => cases there

/-- So many keys stand before a key as different ones were used after it. -/
theorem length_takeWhile_recency {key : κ} {deeds : List (Deed κ ν)}
    (there : key ∈ (recency deeds).map Prod.fst) :
    ((recency deeds).takeWhile fun entry => entry.1 ≠ key).length =
      (usedSince key deeds).dedup.length := by
  have apart : (((recency deeds).takeWhile fun entry => entry.1 ≠ key).map Prod.fst).Nodup :=
    (nodup_keys_recency deeds).sublist ((List.takeWhile_sublist _).map Prod.fst)
  rw [← List.length_map (f := Prod.fst)]
  refine ((List.perm_ext_iff_of_nodup apart (List.nodup_dedup _)).2 fun other => ?_).length_eq
  rw [List.mem_dedup, mem_keys_takeWhile_iff there]

/-! ## The entries of a cache -/

variable {capacity : Nat}

/-- The room of a cache never changes. -/
@[simp]
theorem capacity_after (ops : List (Op κ ν)) : (after capacity ops).capacity = capacity := by
  induction ops with
  | nil => rfl
  | cons op earlier ih =>
    cases op with
    | get key =>
      rw [after, apply, get]
      split <;> exact ih
    | put key value => exact ih
    | clear => exact ih

/-- What is found is what is looked for. -/
theorem get_fst (cache : Cache κ ν) (key : κ) : (cache.get key).1 = cache.find? key := by
  unfold get
  split
  · rename_i found
    exact found.symm
  · rename_i missing
    exact missing.symm

/-- To look for a key that is there finds its value. -/
theorem deed_get_of_some {cache : Cache κ ν} {key : κ} {value : ν}
    (found : cache.find? key = some value) : cache.deed (.get key) = .found key value := by
  rw [deed, get_fst, found]

/-- To look for a key that is not there misses it. -/
theorem deed_get_of_none {cache : Cache κ ν} {key : κ} (missing : cache.find? key = none) :
    cache.deed (.get key) = .missed key := by
  rw [deed, get_fst, missing]

/-- A cache holds what was used last, as far as it has room. -/
theorem entries_after (ops : List (Op κ ν)) :
    (after capacity ops).entries = (recency (deeds capacity ops)).take capacity := by
  induction ops with
  | nil => simp [after, empty, deeds, recency]
  | cons op earlier ih =>
    have use (key : κ) (value : ν) :
        ((after capacity earlier).put key value).entries =
          ((key, value) :: without key (recency (deeds capacity earlier))).take capacity := by
      change afterUse (after capacity earlier).capacity key value
        (after capacity earlier).entries = _
      rw [ih, capacity_after, afterUse_take (nodup_keys_recency _)]
    cases op with
    | get key =>
      cases found : (after capacity earlier).find? key with
      | some value =>
        rw [deeds, deed_get_of_some found, after, apply, get, found]
        exact use key value
      | none =>
        rw [deeds, deed_get_of_none found, after, apply, get, found]
        exact ih
    | put key value => exact use key value
    | clear => simp [after, apply, clear, deeds, deed, recency]

/-- A value that is found belongs to a key that was used. -/
theorem mem_recency_of_find? {ops : List (Op κ ν)} {key : κ} {value : ν}
    (found : (after capacity ops).find? key = some value) :
    (key, value) ∈ recency (deeds capacity ops) := by
  have member := (find?_eq_some_iff (after capacity ops).nodup_keys).1 found
  rw [entries_after] at member
  exact List.mem_of_mem_take member

/-- Every key that was used has the value that was stored last. -/
theorem mem_recency_iff {ops : List (Op κ ν)} {key : κ} {value : ν} :
    (key, value) ∈ recency (deeds capacity ops) ↔
      latest? key (deeds capacity ops) = some value := by
  induction ops with
  | nil => simp [deeds, recency, latest?, storedSince]
  | cons op earlier ih =>
    cases op with
    | get other =>
      cases found : (after capacity earlier).find? other with
      | some old =>
        have same : latest? key (.found other old :: deeds capacity earlier) =
            latest? key (deeds capacity earlier) := by
          simp [latest?, storedSince, Deed.isCleared, Deed.stored?]
        rw [deeds, deed_get_of_some found, same, ← ih, recency, List.mem_cons, mem_without_iff]
        -- the value of the key that was found was already there
        have there := mem_recency_of_find? found
        constructor
        · rintro (equal | ⟨-, kept⟩)
          · obtain ⟨rfl, rfl⟩ := Prod.mk.inj equal
            exact there
          · exact kept
        · intro member
          by_cases equal : key = other
          · subst equal
            have unique := (find?_eq_some_iff (nodup_keys_recency _)).2 member
            rw [(find?_eq_some_iff (nodup_keys_recency _)).2 there] at unique
            exact .inl (by rw [Option.some.inj unique])
          · exact .inr ⟨equal, member⟩
      | none =>
        have same : latest? key (.missed other :: deeds capacity earlier) =
            latest? key (deeds capacity earlier) := by
          simp [latest?, storedSince, Deed.isCleared, Deed.stored?]
        rw [deeds, deed_get_of_none found, same]
        exact ih
    | put other new =>
      have since : storedSince (.stored other new :: deeds capacity earlier) =
          (other, new) :: storedSince (deeds capacity earlier) := by
        simp [storedSince, Deed.isCleared, Deed.stored?]
      rw [deeds, deed, recency, List.mem_cons, mem_without_iff, latest?, since]
      by_cases equal : key = other
      · subst equal
        simp [eq_comm]
      · have differs : (key, value) ≠ (other, new) := fun same => equal (Prod.mk.inj same).1
        rw [List.find?_cons_of_neg (by simpa using Ne.symm equal), ← latest?, ← ih]
        simp [equal, differs]
    | clear => simp [deeds, deed, recency, latest?, storedSince, Deed.isCleared]

/-- The keys that were used are those that were stored. -/
theorem mem_keys_recency_iff {ops : List (Op κ ν)} {key : κ} :
    key ∈ (recency (deeds capacity ops)).map Prod.fst ↔
      key ∈ (storedSince (deeds capacity ops)).map Prod.fst := by
  constructor
  · intro member
    obtain ⟨⟨own, value⟩, there, rfl⟩ := List.mem_map.1 member
    have latest := mem_recency_iff.1 there
    obtain ⟨entry, found, -⟩ := Option.map_eq_some_iff.1 latest
    have same : entry.1 = own := by simpa using List.find?_some found
    exact List.mem_map.2 ⟨entry, List.mem_of_find?_eq_some found, same⟩
  · intro member
    obtain ⟨entry, there, rfl⟩ := List.mem_map.1 member
    cases found : (storedSince (deeds capacity ops)).find? fun other => other.1 = entry.1 with
    | none =>
      have none := List.find?_eq_none.1 found entry there
      simp at none
    | some first =>
      have latest : latest? entry.1 (deeds capacity ops) = some first.2 := by
        rw [latest?, found]
        rfl
      exact List.mem_map.2 ⟨_, mem_recency_iff.2 latest, rfl⟩

/-- A value is found under a key exactly if it was stored last, and fewer other keys than there
is room for were used since the key was used last. -/
theorem find?_after_iff {ops : List (Op κ ν)} {key : κ} {value : ν} :
    (after capacity ops).find? key = some value ↔
      latest? key (deeds capacity ops) = some value ∧
        (usedSince key (deeds capacity ops)).dedup.length < capacity := by
  rw [find?, find?_eq_some_iff (after capacity ops).nodup_keys, entries_after,
    mem_take_iff (nodup_keys_recency _), mem_recency_iff]
  refine and_congr_right fun latest => ?_
  have there := List.mem_map_of_mem (f := Prod.fst) (mem_recency_iff.2 latest)
  rw [length_takeWhile_recency there]

/-- A cache holds as many entries as different keys were stored, as far as it has room. -/
theorem size_after (ops : List (Op κ ν)) :
    (after capacity ops).size =
      min capacity ((storedSince (deeds capacity ops)).map Prod.fst).dedup.length := by
  have keys : ((storedSince (deeds capacity ops)).map Prod.fst).dedup.Perm
      ((recency (deeds capacity ops)).map Prod.fst) := by
    refine (List.perm_ext_iff_of_nodup (List.nodup_dedup _) (nodup_keys_recency _)).2 fun key => ?_
    rw [List.mem_dedup, mem_keys_recency_iff]
  rw [size, entries_after, List.length_take, keys.length_eq, List.length_map]

/-! ## Counting -/

/-- A cache counts how often it has found a value. -/
theorem hits_after (ops : List (Op κ ν)) :
    (after capacity ops).hits = UInt64.ofNat ((deeds capacity ops).countP Deed.isFound) := by
  induction ops with
  | nil => rfl
  | cons op earlier ih =>
    cases op with
    | get key =>
      cases found : (after capacity earlier).find? key with
      | some value =>
        simp [deeds, deed, after, apply, get, found, ih, put, List.countP_cons, Deed.isFound]
      | none => simp [deeds, deed, after, apply, get, found, ih, Deed.isFound]
    | put key value => exact ih
    | clear => exact ih

/-- A cache counts how often it has found no value. -/
theorem misses_after (ops : List (Op κ ν)) :
    (after capacity ops).misses = UInt64.ofNat ((deeds capacity ops).countP Deed.isMissed) := by
  induction ops with
  | nil => rfl
  | cons op earlier ih =>
    cases op with
    | get key =>
      cases found : (after capacity earlier).find? key with
      | some value =>
        simp [deeds, deed, after, apply, get, found, ih, put, Deed.isMissed]
      | none => simp [deeds, deed, after, apply, get, found, ih, List.countP_cons, Deed.isMissed]
    | put key value => exact ih
    | clear => exact ih

/-- Looking for a value, one is found or none. -/
theorem countP_isGet (capacity : Nat) (ops : List (Op κ ν)) :
    ops.countP Op.isGet =
      (deeds capacity ops).countP Deed.isFound + (deeds capacity ops).countP Deed.isMissed := by
  induction ops with
  | nil => rfl
  | cons op earlier ih =>
    rw [deeds, List.countP_cons, List.countP_cons, List.countP_cons, ih]
    have one : (if op.isGet then 1 else 0) =
        (if ((after capacity earlier).deed op).isFound then 1 else 0) +
          (if ((after capacity earlier).deed op).isMissed then 1 else 0) := by
      cases op with
      | get key =>
        cases found : (after capacity earlier).find? key with
        | some value => rw [deed_get_of_some found]; rfl
        | none => rw [deed_get_of_none found]; rfl
      | put key value => rfl
      | clear => rfl
    omega

/-! ## The law -/

/-- A cache without room holds nothing. -/
theorem find?_after_zero (ops : List (Op κ ν)) (key : κ) : (after 0 ops).find? key = none := by
  have nothing : (after 0 ops).entries = [] := by rw [entries_after, List.take_zero]
  rw [find?, nothing]
  rfl

/-- Missing a key changes nothing but the number of misses. -/
theorem get_snd_of_none {cache : Cache κ ν} {key : κ} (missing : (cache.get key).1 = none) :
    (cache.get key).2 = { cache with misses := cache.misses + 1 } := by
  rw [get_fst] at missing
  rw [get, missing]

/-- The cache of a service gives and forgets what its history says. A value is found under a key
exactly if it is the one that was stored last under it since everything was forgotten, and fewer
different keys than there is room for were used, that is stored or found, since this one was
used last. Missing a key only counts. The cache holds as many entries as different keys were
stored since everything was forgotten, as far as it has room; no two of them agree in text,
dimension and model. It counts, up to a multiple of `2 ^ 64`, how often a value was found and
how often one was looked for. Without room nothing is ever found. -/
theorem lru_of_history (capacity : Nat) (ops : List (Op Service.Key Embedding)) :
    (∀ key value, ((after capacity ops).get key).1 = some value ↔
      latest? key (deeds capacity ops) = some value ∧
        (usedSince key (deeds capacity ops)).dedup.length < capacity) ∧
    (∀ key, ((after capacity ops).get key).1 = none → ((after capacity ops).get key).2 =
      { after capacity ops with misses := (after capacity ops).misses + 1 }) ∧
    (after capacity ops).size =
      min capacity ((storedSince (deeds capacity ops)).map Prod.fst).dedup.length ∧
    ((after capacity ops).entries.map fun entry =>
      (entry.1.text, entry.1.dim, entry.1.model)).Nodup ∧
    (after capacity ops).hits = UInt64.ofNat ((deeds capacity ops).countP Deed.isFound) ∧
    (after capacity ops).hits + (after capacity ops).misses =
      UInt64.ofNat (ops.countP Op.isGet) ∧
    (∀ key, ((after 0 ops).get key).1 = none) := by
  refine ⟨fun key value => ?_, fun key => get_snd_of_none, size_after ops, ?_, hits_after ops, ?_,
    fun key => ?_⟩
  · rw [get_fst, find?_after_iff]
  · have triple : (fun entry : Service.Key × Embedding =>
        (entry.1.text, entry.1.dim, entry.1.model)) =
        (fun key : Service.Key => (key.text, key.dim, key.model)) ∘ Prod.fst := rfl
    rw [triple, ← List.map_map]
    refine (after capacity ops).nodup_keys.map fun one other same => ?_
    cases one
    cases other
    simpa using same
  · rw [hits_after, misses_after, countP_isGet capacity, UInt64.ofNat_add]
  · rw [get_fst, find?_after_zero]

/-- Looking the first of two keys up before a third is stored keeps the first and drops the
second, which is then missed without further change. -/
theorem evicted_lru_of_history :
    let key (text : String) : Service.Key := ⟨text, 2, "mock"⟩
    let ops : List (Op Service.Key Embedding) :=
      [.put (key "c") [3], .get (key "a"), .put (key "b") [2], .put (key "a") [1]]
    ((after 2 ops).get (key "a")).1 = some [1] ∧ ((after 2 ops).get (key "b")).1 = none ∧
      ((after 2 ops).get (key "b")).2 =
        { after 2 ops with misses := (after 2 ops).misses + 1 } := by
  intro key ops
  obtain ⟨found, missed, -⟩ := lru_of_history 2 ops
  have absent : ((after 2 ops).get (key "b")).1 = none := rfl
  exact ⟨(found (key "a") [1]).2 ⟨rfl, by decide⟩, absent, missed _ absent⟩

end Matryoshka.Cache
