import Matryoshka.Proofs.Cache.Recency
import Matryoshka.Proofs.Service.Answers
import Matryoshka.Proofs.Service.Fates

/-!
# How a service uses its cache

Whatever a service asks of its cache is seen: texts are looked up, and vectors are remembered. The
cache is what all this makes of an empty one (`cache_of_run`). Each text that a call hands in is
looked up once, when its turn comes (`looks_of_run`), and what a call sends it has looked up and not
found (`errands_le_missed`).
-/

namespace Matryoshka.Service

/-! ## What is asked of the cache -/

/-- What an event asks of the cache. -/
def Event.cacheOp? (settings : Settings) : Event → Option (Cache.Op Key Embedding)
  | .lookedUp _ text _ => some (.get (keyOf settings text))
  | .remembered key embedding => some (.put key embedding)
  | _ => none

/-- What some events ask of the cache, the latest in front. -/
def operations (settings : Settings) (events : List Event) : List (Cache.Op Key Embedding) :=
  (events.filterMap (Event.cacheOp? settings)).reverse

/-- Whether a text is looked up. -/
def Event.isLookUp : Event → Bool
  | .lookedUp _ _ _ => true
  | _ => false

/-- The texts that a call looks up. -/
def looksIn (id : CallId) (events : List Event) : List String :=
  events.filterMap fun
    | .lookedUp call text _ => if call = id then some text else none
    | _ => none

/-- The texts that are looked up and not found, each with its call. -/
def missedIn (events : List Event) : List (CallId × String) :=
  events.filterMap fun
    | .lookedUp call text false => some (call, text)
    | _ => none

variable {settings : Settings} {s t : State} {labels : List Label} {label : Label}
  {events more : List Event}

/-- What is asked of a cache after other things is done after them. -/
theorem after_reverse_append {κ ν : Type} [DecidableEq κ] (capacity : Nat)
    (ops later : List (Cache.Op κ ν)) :
    Cache.after capacity (ops ++ later).reverse =
      later.foldl Cache.apply (Cache.after capacity ops.reverse) := by
  induction later generalizing ops with
  | nil => rw [List.append_nil, List.foldl_nil]
  | cons op later ih =>
    rw [List.append_cons, ih, List.reverse_append]
    rfl

/-- Nothing is read off the events of a worker if nothing is read off any event about workers. -/
theorem filterMap_eq_nil_of_worker {α : Type} {read : Event → Option α} {w : WorkerId}
    (silent : ∀ event, event.worker?.isSome = true → read event = none)
    (about : ∀ event ∈ events, event.worker? = some w) : events.filterMap read = [] := by
  rw [List.filterMap_eq_nil_iff]
  intro event member
  exact silent event (by rw [about event member]; rfl)

/-- Events about workers ask nothing of the cache. -/
theorem cacheOp?_of_worker (event : Event) (about : event.worker?.isSome = true) :
    event.cacheOp? settings = none := by
  cases event <;> first | rfl | cases about

/-- A step changes the cache by what is asked of it. -/
theorem cache_of_transition (transition : Transition settings s label t more) :
    t.cache = (more.filterMap (Event.cacheOp? settings)).foldl Cache.apply s.cache := by
  have received (text : String) (outcome : ItemOutcome) :
      remembered settings s.cache text outcome =
        ((rememberEvents settings text outcome).filterMap (Event.cacheOp? settings)).foldl
          Cache.apply s.cache := by
    cases outcome <;> rfl
  cases transition with
  | @caller id move call _ _ found step =>
    cases step with
    | @receive text ticket slots letter collecting next arrived =>
      cases cached : call.cached with
      | true => exact received text (Caller.outcomeOf letter)
      | false => rfl
    | _ => rfl
  | receiveLate => exact received _ _
  | worker found step =>
    rw [filterMap_eq_nil_of_worker cacheOp?_of_worker step.worker?_eq]
    rfl
  | _ => rfl

/-- In every run, the cache is what is asked of it makes of an empty one. -/
theorem cache_of_run (run : Run settings (initial settings) labels events s) :
    s.cache = Cache.after settings.cacheCapacity (operations settings events) := by
  induction run with
  | none => rfl
  | step before next ih =>
    rw [operations, List.filterMap_append, after_reverse_append, ← operations, ← ih]
    exact cache_of_transition (transition_of_step next)

/-- In every run, the cache counts each text that is looked up as found or as not found. -/
theorem hits_add_misses (run : Run settings (initial settings) labels events s) :
    s.cache.hits + s.cache.misses = UInt64.ofNat (events.countP Event.isLookUp) := by
  have gets : (operations settings events).countP Cache.Op.isGet =
      events.countP Event.isLookUp := by
    rw [operations, List.countP_reverse, List.countP_filterMap]
    refine List.countP_congr fun event _ => ?_
    cases event <;> simp [Event.cacheOp?, Event.isLookUp, Cache.Op.isGet]
  rw [cache_of_run run, Cache.hits_after, Cache.misses_after, ← UInt64.ofNat_add,
    ← Cache.countP_isGet, gets]

/-! ## Each text is looked up once -/

/-- Whether calls look texts up, after one more step. -/
def Label.usesCache (uses : CallId → Bool) : Label → CallId → Bool
  | .embed id _, other => if other = id then true else uses other
  | .probe id _, other => if other = id then false else uses other
  | _, other => uses other

/-- Whether each call looks texts up, by how it began last. -/
def usesCache (labels : List Label) : CallId → Bool :=
  labels.foldl Label.usesCache fun _ => false

/-- The texts that a call has looked up since it began, after one more step. -/
def Passage.looks (id : CallId) (looked : List String) (passage : Passage) : List String :=
  match passage.label with
  | .embed other _ | .probe other _ => if id = other then [] else looked
  | _ => looked ++ looksIn id passage.seen

/-- The texts that a call has looked up since it began last. -/
def looksOf (settings : Settings) (labels : List Label) (id : CallId) : List String :=
  (passages settings labels).foldl (Passage.looks id) []

/-- What a call has looked up after one more step. -/
theorem looksOf_append (run : Run settings (initial settings) labels events s)
    (next : step settings s label = some (t, more)) (id : CallId) :
    looksOf settings (labels ++ [label]) id =
      Passage.looks id (looksOf settings labels id) ⟨s, label, more⟩ := by
  rw [looksOf, passages_append run next, List.foldl_append]
  rfl

/-- Events about workers are no lookups. -/
theorem looksIn_of_worker {w : WorkerId} (about : ∀ event ∈ events, event.worker? = some w)
    (id : CallId) : looksIn id events = [] := by
  refine filterMap_eq_nil_of_worker (fun event own => ?_) about
  cases event <;> first | rfl | cases own

/-- Remembering is no lookup. -/
theorem looksIn_rememberEvents (id : CallId) (text : String) (outcome : ItemOutcome) :
    looksIn id (rememberEvents settings text outcome) = [] := by
  cases outcome <;> rfl

/-- Receiving is no lookup. -/
theorem looksIn_receive (id : CallId) (cached : Bool) (text : String) (outcome : ItemOutcome) :
    looksIn id (if cached then rememberEvents settings text outcome else []) = [] := by
  cases cached with
  | true => exact looksIn_rememberEvents id text outcome
  | false => rfl

/-- A step of a caller looks up nothing for another call. -/
theorem CallerStep.looksIn_eq_nil {call : Call} {move : CallerMove} {id : CallId}
    (step : CallerStep settings s call move t more) (other : id ≠ call.id) :
    looksIn id more = [] := by
  cases step with
  | find => simp [looksIn, other.symm]
  | miss => simp [looksIn, other.symm]
  | receive => exact looksIn_receive id _ _ _
  | _ => rfl

/-- In a step of its caller, a call looks up the first of its texts, or none. -/
theorem CallerStep.texts_eq {call c : Call} {move : CallerMove}
    (step : CallerStep settings s call move t more) (member : c ∈ t.calls)
    (own : c.id = call.id) : call.texts = looksIn call.id more ++ c.texts := by
  have moved {call' : Call} (there : c ∈ s.callsWith call') (same : call'.id = call.id)
      (texts : call.texts = looksIn call.id more ++ call'.texts) :
      call.texts = looksIn call.id more ++ c.texts :=
    eq_of_mem_callsWith same there own ▸ texts
  cases step with
  | find handing next => exact moved member rfl (by simp [looksIn, next, Caller.settle])
  | miss handing next => exact moved member rfl (by simp [looksIn, next])
  | receive => exact moved member rfl (by rw [looksIn_receive]; rfl)
  | answer => exact absurd own (ne_of_mem_callsWithout member)
  | leave => exact absurd own (ne_of_mem_callsWithout member)
  | _ => exact moved member rfl rfl

/-- What a call was asked for it has looked up, or has still to look up. -/
def Call.Looking (cached : Bool) (texts looked : List String) (call : Call) : Prop :=
  call.cached = cached ∧ (if cached then texts else []) = looked ++ call.texts

/-- In every run, each call that uses the cache has looked up what it was asked for, in order,
except the texts that it has still to hand in. The other calls look up nothing. -/
theorem looks_of_run (run : Run settings (initial settings) labels events s) :
    ∀ call ∈ s.calls, call.Looking (usesCache labels call.id) (asked labels call.id)
      (looksOf settings labels call.id) := by
  induction run with
  | none => exact fun _ member => absurd member List.not_mem_nil
  | @step u v labels events more label before next ih =>
    intro c member
    rw [looksOf_append before next, usesCache, asked, List.foldl_append, List.foldl_append,
      List.foldl_cons, List.foldl_cons, List.foldl_nil, List.foldl_nil, ← usesCache, ← asked]
    have rests (there : c ∈ u.calls)
        (cached : label.usesCache (usesCache labels) c.id = usesCache labels c.id)
        (texts : label.asks (asked labels) c.id = asked labels c.id)
        (looked : Passage.looks c.id (looksOf settings labels c.id) ⟨u, label, more⟩ =
          looksOf settings labels c.id) :
        c.Looking (label.usesCache (usesCache labels) c.id) (label.asks (asked labels) c.id)
          (Passage.looks c.id (looksOf settings labels c.id) ⟨u, label, more⟩) := by
      rw [cached, texts, looked]
      exact ih c there
    have none (nothing : looksIn c.id more = []) :
        looksOf settings labels c.id ++ looksIn c.id more = looksOf settings labels c.id := by
      rw [nothing, List.append_nil]
    cases transition_of_step next with
    | @embed id texts fresh =>
      rcases List.mem_append.1 member with there | new
      · have other := ne_of_call?_eq_none fresh c there
        exact rests there (if_neg other) (if_neg other) (if_neg other)
      · obtain rfl := List.mem_singleton.1 new
        simp [Call.Looking, Caller.newCall, Label.usesCache, Label.asks, Passage.looks]
    | @probe id text fresh =>
      rcases List.mem_append.1 member with there | new
      · have other := ne_of_call?_eq_none fresh c there
        exact rests there (if_neg other) (if_neg other) (if_neg other)
      · obtain rfl := List.mem_singleton.1 new
        simp [Call.Looking, Caller.newProbe, Label.usesCache, Passage.looks]
    | @caller id move call _ _ found step =>
      by_cases own : c.id = call.id
      · obtain ⟨cached, texts⟩ := ih call (mem_of_call? found)
        rw [own]
        refine ⟨(step.cached_eq member own).trans cached, ?_⟩
        change (if usesCache labels call.id then asked labels call.id else []) =
          looksOf settings labels call.id ++ looksIn call.id more ++ c.texts
        rw [texts, step.texts_eq member own, List.append_assoc]
      · exact rests (step.mem_calls member own) rfl rfl (none (step.looksIn_eq_nil own))
    | receiveLate => exact rests member rfl rfl (none (looksIn_rememberEvents _ _ _))
    | worker found step => exact rests member rfl rfl (none (looksIn_of_worker step.worker?_eq _))
    | _ => exact rests member rfl rfl (none rfl)

/-! ## What is sent was looked up -/

/-- Whether a call that uses the cache sends a text. -/
def Errand.isFor (id : CallId) (text : String) (errand : Errand) : Bool :=
  errand.cached && errand.call == id && errand.request.text == text

/-- Whether a call that uses the cache goes to the worker with a text. -/
def Call.bears (id : CallId) (text : String) (call : Call) : Bool :=
  call.cached && call.id == id && call.stage.texts == [text]

section Caller

variable {id other : CallId} {call call' : Call} {move : CallerMove} {text : String}
  (apart : Apart s.calls) (found : s.call? id = some call)
include apart found

/-- A step in which a call moves on: it sends at most what it was to send or has just missed. -/
theorem bears_le_of_moved {sent missed : Nat} (calls : t.calls = s.callsWith call')
    (same : call'.id = call.id)
    (le : sent + (call'.bears other text).toNat ≤ (call.bears other text).toNat + missed) :
    sent + t.calls.countP (Call.bears other text) ≤
      s.calls.countP (Call.bears other text) + missed := by
  have counted := le_countP_calls found (Call.bears other text)
  rw [calls, countP_callsWith apart found same]
  omega

/-- A step in which a call is done with the text at hand: it sends at most this one. -/
theorem bears_le_of_handing {sent missed : Nat} (calls : t.calls = s.callsWith call')
    (same : call'.id = call.id) (handing : call'.stage = .handing)
    (le : sent ≤ (call.bears other text).toNat + missed) :
    sent + t.calls.countP (Call.bears other text) ≤
      s.calls.countP (Call.bears other text) + missed := by
  refine bears_le_of_moved apart found calls same ?_
  have none : call'.bears other text = false := by simp [Call.bears, handing, Stage.texts]
  rw [none]
  exact le

/-- A step in which a call collects an outcome changes nothing about what it goes to the worker
with. -/
theorem bears_le_of_collected {missed : Nat} {slots : List Slot} {outcome : ItemOutcome}
    (calls : t.calls = s.callsWith (Caller.collected call slots outcome)) :
    0 + t.calls.countP (Call.bears other text) ≤
      s.calls.countP (Call.bears other text) + missed := by
  refine bears_le_of_moved apart found calls rfl ?_
  rw [Nat.zero_add]
  exact Nat.le_add_right _ _

/-- A step in which a call is gone leaves no more calls that go to the worker with a text. -/
theorem bears_le_of_gone (calls : t.calls = s.callsWithout call.id) :
    0 + t.calls.countP (Call.bears other text) ≤ s.calls.countP (Call.bears other text) := by
  rw [calls, countP_callsWithout apart found, Nat.zero_add]
  exact Nat.sub_le _ _

/-- A call that uses the cache goes to the worker with a text that it has just missed, and sends it
at most once. -/
theorem CallerStep.errands_le (step : CallerStep settings s call move t more) :
    (Passage.errands ⟨s, .caller id move, more⟩).countP (Errand.isFor other text) +
        t.calls.countP (Call.bears other text) ≤
      s.calls.countP (Call.bears other text) + (missedIn more).count (other, text) := by
  cases step with
  | find => exact bears_le_of_handing apart found rfl rfl rfl (Nat.zero_le _)
  | @miss own rest handing next unknown =>
    refine bears_le_of_moved apart found rfl rfl ?_
    change 0 + _ ≤ _ + [(call.id, own)].count (other, text)
    rw [Nat.zero_add]
    cases bears : Call.bears other text { call with texts := rest, stage := .submitting own } with
    | false => exact Nat.zero_le _
    | true =>
      simp only [Call.bears, Stage.texts, Bool.and_eq_true, beq_iff_eq, List.cons.injEq,
        and_true] at bears
      obtain ⟨⟨-, rfl⟩, rfl⟩ := bears
      simp
  | turnedAway => exact bears_le_of_handing apart found rfl rfl rfl (Nat.zero_le _)
  | submit submitting =>
    refine bears_le_of_moved apart found rfl rfl ?_
    simp [Passage.errands, Call.bears, submitting, Stage.texts]
  | shutOut =>
    refine bears_le_of_handing apart found rfl rfl rfl ?_
    simp [Passage.errands, found, acceptedIn]
  | @send w request worker sending =>
    have sent : Passage.errands ⟨s, .caller id .send, [.accepted w request]⟩ =
        [⟨call.id, call.cached, request⟩] := by simp [Passage.errands, found, acceptedIn]
    have same : Errand.isFor other text ⟨call.id, call.cached, request⟩ =
        call.bears other text := by
      simp [Errand.isFor, Call.bears, sending, Stage.texts]
    refine bears_le_of_handing apart found rfl rfl rfl ?_
    rw [sent, countP_cons_toNat, List.countP_nil, Nat.zero_add, same]
    exact Nat.le_add_right _ _
  | giveUp => exact bears_le_of_handing apart found rfl rfl rfl (Nat.zero_le _)
  | collectSettled => exact bears_le_of_collected apart found rfl
  | receive => exact bears_le_of_collected apart found rfl
  | expire => exact bears_le_of_collected apart found rfl
  | answer => exact bears_le_of_gone apart found rfl
  | leave => exact bears_le_of_gone apart found rfl

end Caller

/-- Calls go to the worker with texts that they have missed, and send each at most once. -/
theorem errands_le_of_transition (apart : Apart s.calls)
    (transition : Transition settings s label t more) (id : CallId) (text : String) :
    (Passage.errands ⟨s, label, more⟩).countP (Errand.isFor id text) +
        t.calls.countP (Call.bears id text) ≤
      s.calls.countP (Call.bears id text) + (missedIn more).count (id, text) := by
  cases transition with
  | caller found step => exact step.errands_le apart found
  | embed => simp [Passage.errands, Call.bears, Caller.newCall, Stage.texts]
  | probe => simp [Passage.errands, Call.bears, Caller.newProbe]
  | _ =>
    change 0 + _ ≤ _
    rw [Nat.zero_add]
    exact Nat.le_add_right _ _

/-- In every run, what a call that uses the cache sends it has looked up and not found, each time
anew. -/
theorem errands_le_missed (run : Run settings (initial settings) labels events s) (id : CallId)
    (text : String) :
    (errandsOf settings labels).countP (Errand.isFor id text) ≤
      (missedIn events).count (id, text) := by
  have all : (errandsOf settings labels).countP (Errand.isFor id text) +
      s.calls.countP (Call.bears id text) ≤ (missedIn events).count (id, text) := by
    induction run with
    | none => exact Nat.zero_le _
    | @step u v labels events more label before next ih =>
      have change :=
        errands_le_of_transition (apart_of_run before) (transition_of_step next) id text
      rw [errandsOf, along_append _ before next, ← errandsOf, List.countP_append, missedIn,
        List.filterMap_append, List.count_append, ← missedIn, ← missedIn]
      omega
  exact Nat.le_of_add_right_le all

end Matryoshka.Service
