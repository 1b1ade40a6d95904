import Mathlib.Algebra.Ring.Nat
import Matryoshka.Proofs.Service.Transition

/-!
# The calls of a service

No two calls that have not been answered have the same number (`apart_of_run`). So when
one call moves on or goes away all others stay as they are, and a sum over all calls changes
by what this one adds before and after.
-/

namespace Matryoshka.Service

/-- No two calls have the same number. -/
def Apart (calls : List Call) : Prop := (calls.map Call.id).Nodup

section Lists

variable {calls : List Call} {old new : Call}

/-- Replacing a call leaves calls with other numbers as they are. -/
theorem map_replace_of_not_mem (other : new.id ∉ calls.map Call.id) :
    (calls.map fun c => if c.id = new.id then new else c) = calls := by
  induction calls with
  | nil => rfl
  | cons c calls ih =>
    rw [List.map_cons, List.mem_cons, not_or] at other
    obtain ⟨first, later⟩ := other
    rw [List.map_cons, ih later, if_neg (Ne.symm first)]

/-- The first item of a list counts one or nothing. -/
theorem countP_cons_toNat {α : Type} (p : α → Bool) (item : α) (items : List α) :
    (item :: items).countP p = items.countP p + (p item).toNat := by
  rw [List.countP_cons]
  cases p item <;> rfl

/-- A count is a sum of ones. -/
theorem countP_eq_sum {α : Type} (p : α → Bool) (items : List α) :
    items.countP p = (items.map fun item => (p item).toNat).sum := by
  induction items with
  | nil => rfl
  | cons item items ih =>
    rw [countP_cons_toNat, ih, List.map_cons, List.sum_cons, Nat.add_comm]

/-- Replacing a call changes a sum by what the call adds before and after. -/
theorem sum_replace (apart : Apart calls) (member : old ∈ calls) (same : new.id = old.id)
    (f : Call → Nat) :
    ((calls.map fun c => if c.id = new.id then new else c).map f).sum + f old =
      (calls.map f).sum + f new := by
  induction calls with
  | nil => cases member
  | cons c calls ih =>
    obtain ⟨first, others⟩ := List.nodup_cons.1 apart
    simp only [List.map_cons, List.sum_cons]
    rcases List.mem_cons.1 member with rfl | later
    · rw [← same] at first
      rw [map_replace_of_not_mem first, if_pos same.symm]
      omega
    · have differs : c.id ≠ new.id := by
        intro equal
        exact first (equal ▸ same ▸ List.mem_map_of_mem later)
      have rest := ih others later
      rw [if_neg differs]
      omega

/-- Removing a call leaves calls with other numbers as they are. -/
theorem filter_without_of_not_mem {id : CallId} (other : id ∉ calls.map Call.id) :
    (calls.filter fun c => c.id != id) = calls := by
  rw [List.filter_eq_self]
  intro c member
  simp only [bne_iff_ne]
  intro equal
  exact other (equal ▸ List.mem_map_of_mem member)

/-- Removing a call lowers a sum by what the call adds. -/
theorem sum_without (apart : Apart calls) (member : old ∈ calls) (f : Call → Nat) :
    ((calls.filter fun c => c.id != old.id).map f).sum + f old = (calls.map f).sum := by
  induction calls with
  | nil => cases member
  | cons c calls ih =>
    obtain ⟨first, others⟩ := List.nodup_cons.1 apart
    rw [List.filter_cons, List.map_cons, List.sum_cons]
    rcases List.mem_cons.1 member with rfl | later
    · rw [filter_without_of_not_mem first, if_neg (by simp)]
      omega
    · have differs : c.id ≠ old.id := by
        intro equal
        exact first (equal ▸ List.mem_map_of_mem later)
      have rest := ih others later
      rw [if_pos (by simpa using differs), List.map_cons, List.sum_cons]
      omega

/-- Replacing a call keeps calls apart. -/
theorem Apart.replace (apart : Apart calls) :
    Apart (calls.map fun c => if c.id = new.id then new else c) := by
  have same : (calls.map fun c => if c.id = new.id then new else c).map Call.id =
      calls.map Call.id := by
    rw [List.map_map]
    refine List.map_congr_left ?_
    intro c _
    by_cases equal : c.id = new.id <;> simp [equal]
  unfold Apart
  rw [same]
  exact apart

/-- Removing a call keeps calls apart. -/
theorem Apart.without (apart : Apart calls) (id : CallId) :
    Apart (calls.filter fun c => c.id != id) :=
  List.Nodup.sublist (List.filter_sublist.map Call.id) apart

/-- A new call keeps calls apart. -/
theorem Apart.append (apart : Apart calls) (fresh : ∀ c ∈ calls, c.id ≠ new.id) :
    Apart (calls ++ [new]) := by
  unfold Apart
  rw [List.map_append, List.nodup_append]
  refine ⟨apart, by simp, ?_⟩
  intro id member other equal new
  simp only [List.map_cons, List.map_nil, List.mem_singleton] at equal
  obtain ⟨c, there, rfl⟩ := List.mem_map.1 member
  exact fresh c there (new.trans equal)

end Lists

variable {settings : Settings} {s t : State} {call : Call}

/-- A call that is found is there. -/
theorem mem_of_call? {id : CallId} (found : s.call? id = some call) : call ∈ s.calls :=
  List.mem_of_find?_eq_some found

/-- A letter that is found is there. -/
theorem mem_of_letter? {ticket : Ticket} {letter : Letter}
    (arrived : s.letter? ticket = some letter) : (ticket, letter) ∈ s.letters := by
  obtain ⟨before, after, split, -⟩ := List.lookup_eq_some_iff.1 arrived
  exact split ▸ List.mem_append_right _ List.mem_cons_self

/-- A call that is there is found. -/
theorem call?_of_mem (apart : Apart s.calls) (member : call ∈ s.calls) :
    s.call? call.id = some call := by
  unfold Apart at apart
  rw [State.call?]
  generalize s.calls = calls at apart member
  induction calls with
  | nil => cases member
  | cons c calls ih =>
    obtain ⟨first, others⟩ := List.nodup_cons.1 apart
    rcases List.mem_cons.1 member with rfl | later
    · rw [List.find?_cons_of_pos (by simp)]
    · have differs : c.id ≠ call.id := by
        intro equal
        exact first (equal ▸ List.mem_map_of_mem later)
      rw [List.find?_cons_of_neg (by simpa using differs)]
      exact ih others later

/-- After one call has moved on, any other call was there before. -/
theorem mem_callsWith {call' c : Call} (member : c ∈ s.callsWith call') :
    c = call' ∨ c ∈ s.calls ∧ c.id ≠ call'.id := by
  obtain ⟨before, there, rfl⟩ := List.mem_map.1 member
  split
  · exact .inl rfl
  · rename_i other
    exact .inr ⟨there, other⟩

/-- After one call has moved on, it is the only one with its number. -/
theorem eq_of_mem_callsWith {call' c : Call} (same : call'.id = call.id)
    (member : c ∈ s.callsWith call') (own : c.id = call.id) : c = call' := by
  rcases mem_callsWith member with moved | ⟨-, other⟩
  · exact moved
  · exact absurd (own.trans same.symm) other

/-- After a call is gone, none has its number. -/
theorem ne_of_mem_callsWithout {c : Call} (member : c ∈ s.callsWithout call.id) :
    c.id ≠ call.id := by
  simpa using (List.mem_filter.1 member).2

/-- A number that is not found is new. -/
theorem ne_of_call?_eq_none {id : CallId} (fresh : s.call? id = none) :
    ∀ c ∈ s.calls, c.id ≠ id := by
  simpa [State.call?] using fresh

/-- Collecting an outcome keeps the number of the call. -/
@[simp]
theorem collected_id (call : Call) (slots : List Slot) (outcome : ItemOutcome) :
    (Caller.collected call slots outcome).id = call.id :=
  rfl

/-- A call that collects has no text at hand. -/
theorem stage_of_isCollecting (collecting : call.isCollecting = true) : call.stage = .handing := by
  unfold Call.isCollecting at collecting
  split at collecting
  · assumption
  · cases collecting

/-- A call that collects has handed in all its texts. -/
theorem texts_of_isCollecting (collecting : call.isCollecting = true) : call.texts = [] := by
  unfold Call.isCollecting at collecting
  split at collecting
  · assumption
  · cases collecting

/-- What a call may be after a step of its caller. -/
inductive CallAfter (calls : List Call) (call : Call) (after : List Call) : Prop
  /-- It has moved on. -/
  | moved (call' : Call) (same : call'.id = call.id)
      (calls_eq : after = calls.map fun c => if c.id = call'.id then call' else c)
  /-- It is gone. -/
  | gone (calls_eq : after = calls.filter fun c => c.id != call.id)

/-- A step of a caller touches no call but its own. -/
theorem CallerStep.callAfter {move : CallerMove} {events : List Event}
    (step : CallerStep settings s call move t events) : CallAfter s.calls call t.calls := by
  cases step with
  | answer => exact .gone rfl
  | leave => exact .gone rfl
  | find => exact .moved _ (by rfl) rfl
  | miss => exact .moved _ (by rfl) rfl
  | turnedAway => exact .moved _ (by rfl) rfl
  | submit => exact .moved _ (by rfl) rfl
  | shutOut => exact .moved _ (by rfl) rfl
  | send => exact .moved _ (by rfl) rfl
  | giveUp => exact .moved _ (by rfl) rfl
  | collectSettled => exact .moved _ (by rfl) rfl
  | receive => exact .moved _ (by rfl) rfl
  | expire => exact .moved _ (by rfl) rfl

/-- A step of a caller keeps whether its call uses the cache. -/
theorem CallerStep.cached_eq {move : CallerMove} {events : List Event} {c : Call}
    (step : CallerStep settings s call move t events) (member : c ∈ t.calls)
    (own : c.id = call.id) : c.cached = call.cached := by
  have moved {call' : Call} (same : call'.id = call.id) (cached : call'.cached = call.cached)
      (there : c ∈ s.callsWith call') : c.cached = call.cached :=
    eq_of_mem_callsWith same there own ▸ cached
  cases step with
  | answer => exact absurd own (ne_of_mem_callsWithout member)
  | leave => exact absurd own (ne_of_mem_callsWithout member)
  | _ => exact moved (by rfl) (by rfl) member

/-- After a step of a caller, every other call was there before. -/
theorem CallerStep.mem_calls {move : CallerMove} {events : List Event} {c : Call}
    (step : CallerStep settings s call move t events) (member : c ∈ t.calls)
    (other : c.id ≠ call.id) : c ∈ s.calls := by
  cases step.callAfter with
  | moved call' same calls_eq =>
    rw [calls_eq] at member
    rcases mem_callsWith member with rfl | ⟨there, -⟩
    · exact absurd same other
    · exact there
  | gone calls_eq =>
    rw [calls_eq] at member
    exact (List.mem_filter.1 member).1

/-- Every step keeps the calls apart. -/
theorem apart_of_transition {label : Label} {events : List Event} (apart : Apart s.calls)
    (transition : Transition settings s label t events) : Apart t.calls := by
  cases transition with
  | embed fresh => exact apart.append (ne_of_call?_eq_none fresh)
  | probe fresh => exact apart.append (ne_of_call?_eq_none fresh)
  | caller found step =>
    cases step.callAfter with
    | moved call' _ calls_eq =>
      rw [calls_eq]
      exact apart.replace
    | gone calls_eq =>
      rw [calls_eq]
      exact apart.without _
  | startHeld => exact apart
  | start => exact apart
  | shutDownNobody => exact apart
  | shutDown => exact apart
  | receiveLate => exact apart
  | worker => exact apart
  | finishEnding => exact apart
  | expireEnding => exact apart
  | leaveEnding => exact apart
  | pass => exact apart

/-- In every run the calls are apart. -/
theorem apart_of_run {labels : List Label} {events : List Event}
    (run : Run settings (initial settings) labels events s) : Apart s.calls := by
  induction run with
  | none => exact List.nodup_nil
  | step _ next ih => exact apart_of_transition ih (transition_of_step next)

/-- A call that is there is counted. -/
theorem le_countP_calls {id : CallId} (found : s.call? id = some call) (p : Call → Bool) :
    (p call).toNat ≤ s.calls.countP p := by
  cases counted : p call with
  | true => exact List.countP_pos_iff.2 ⟨call, mem_of_call? found, counted⟩
  | false => exact Nat.zero_le _

section Sums

variable {id : CallId} (apart : Apart s.calls) (found : s.call? id = some call)
include apart found

/-- A sum over calls after one of them has moved on. -/
theorem sum_callsWith {call' : Call} (same : call'.id = call.id) (f : Call → Nat) :
    ((s.callsWith call').map f).sum + f call = (s.calls.map f).sum + f call' :=
  sum_replace apart (mem_of_call? found) same f

/-- A sum over calls after one of them is gone. -/
theorem sum_callsWithout (f : Call → Nat) :
    ((s.callsWithout call.id).map f).sum + f call = (s.calls.map f).sum :=
  sum_without apart (mem_of_call? found) f

/-- A count of calls after one of them has moved on. -/
theorem countP_callsWith {call' : Call} (same : call'.id = call.id) (p : Call → Bool) :
    (s.callsWith call').countP p = s.calls.countP p - (p call).toNat + (p call').toNat := by
  have sum := sum_callsWith apart found same fun c => (p c).toNat
  have counted := le_countP_calls found p
  rw [countP_eq_sum] at counted ⊢
  rw [countP_eq_sum]
  omega

/-- A count of calls after one of them is gone. -/
theorem countP_callsWithout (p : Call → Bool) :
    (s.callsWithout call.id).countP p = s.calls.countP p - (p call).toNat := by
  have sum := sum_callsWithout apart found fun c => (p c).toNat
  rw [countP_eq_sum, countP_eq_sum]
  omega

end Sums

end Matryoshka.Service
