import Matryoshka.Proofs.Service.CacheUse
import Matryoshka.Proofs.Service.Discharges

/-!
# What is remembered of the replies

A vector is remembered in the step in which its letter is taken, by the caller that collects it in
time or by whoever still waits for it after its time. As every wait ends once, the vector that a
worker replies to a call that uses the cache is remembered once, unless the caller goes away before
(`Kept`). Nothing else is ever remembered (`CachingPolicy`).
-/

namespace Matryoshka.Service

/-- The vectors that are remembered, each with its key. -/
def rememberedIn (events : List Event) : List (Key × Embedding) :=
  events.filterMap fun
    | .remembered key embedding => some (key, embedding)
    | _ => none

/-- What is remembered when a wait ends. -/
def Fate.remembers (settings : Settings) : Fate → List (Key × Embedding)
  | .collected true text (.reply (.ok embedding))
  | .receivedLate text (.reply (.ok embedding)) => [(keyOf settings text, embedding)]
  | _ => []

/-- How the wait for the letter under a ticket has ended. -/
def fatesUnder (settings : Settings) (labels : List Label) (ticket : Ticket) : List Fate :=
  ((fatesOf settings labels).filter fun fate => fate.1 == ticket).map Prod.snd

/-- What was remembered when the wait for the letter under a ticket ended. -/
def rememberedFor (settings : Settings) (labels : List Label) (ticket : Ticket) :
    List (Key × Embedding) :=
  (fatesUnder settings labels ticket).flatMap (Fate.remembers settings)

variable {settings : Settings} {s t : State} {labels : List Label} {label : Label}
  {events more : List Event}

/-! ## What is remembered when -/

/-- When a caller moves, the vector of a letter is remembered if the wait for it ends so. -/
theorem CallerStep.remembered_eq {call : Call} {move : CallerMove}
    (step : CallerStep settings s call move t more) :
    rememberedIn more = (call.fates s move).flatMap fun fate => fate.2.remembers settings := by
  cases step with
  | collectSettled collecting next =>
    rw [Call.fates, next]
    rfl
  | @receive text ticket slots letter collecting next arrived =>
    simp only [Call.fates, next, arrived]
    cases call.cached with
    | false => rfl
    | true =>
      cases letter with
      | lost => rfl
      | reply outcome => cases outcome <;> rfl
  | expire collecting next =>
    rw [Call.fates, next]
    cases call.cached <;> rfl
  | leave =>
    rw [Call.fates, List.flatMap_map]
    exact (List.flatMap_eq_nil_iff.2 fun _ _ => rfl).symm
  | _ => rfl

/-- In a step, the vector of a letter is remembered if the wait for it ends so. -/
theorem remembered_of_transition (transition : Transition settings s label t more) :
    rememberedIn more =
      (Passage.fates ⟨s, label, more⟩).flatMap fun fate => fate.2.remembers settings := by
  cases transition with
  | caller found step =>
    rw [fates_caller found]
    exact step.remembered_eq
  | @receiveLate ticket l letter awaited arrived =>
    simp only [Passage.fates, awaited, arrived]
    cases letter with
    | lost => rfl
    | reply outcome => cases outcome <;> rfl
  | worker found step =>
    refine filterMap_eq_nil_of_worker (fun event about => ?_) step.worker?_eq
    cases event <;> first | rfl | cases about
  | _ => rfl

/-- In every run, what is remembered is remembered when a wait ends. -/
theorem remembered_of_run (run : Run settings (initial settings) labels events s) :
    rememberedIn events =
      (fatesOf settings labels).flatMap fun fate => fate.2.remembers settings := by
  induction run with
  | none => rfl
  | step before next ih =>
    rw [fatesOf, along_append _ before next, ← fatesOf, List.flatMap_append, ← ih,
      ← remembered_of_transition (transition_of_step next)]
    exact List.filterMap_append

/-- What is remembered when a wait ends is the vector of the letter, and belongs to the text of the
errand. -/
theorem Fate.Fits.of_mem_remembers {fate : Fate} {errand : Errand} (fits : fate.Fits events errand)
    {entry : Key × Embedding} (member : entry ∈ fate.remembers settings) :
    errand.cached = true ∧ entry.1 = keyOf settings errand.request.text ∧
      fate.letter? = some (.reply (.ok entry.2)) := by
  unfold Fate.remembers at member
  split at member
  · obtain ⟨cached, rfl⟩ := fits
    obtain rfl := List.mem_singleton.1 member
    exact ⟨cached, rfl, rfl⟩
  · obtain ⟨cached, rfl⟩ := fits
    obtain rfl := List.mem_singleton.1 member
    exact ⟨cached, rfl, rfl⟩
  · cases member

/-! ## One errand, one fate -/

/-- How the wait for a letter has ended is how it has ended in some step. -/
theorem mem_fatesUnder_iff {ticket : Ticket} {fate : Fate} :
    fate ∈ fatesUnder settings labels ticket ↔ (ticket, fate) ∈ fatesOf settings labels := by
  simp [fatesUnder]

/-- The waits for a letter that have ended are counted. -/
theorem length_fatesUnder (ticket : Ticket) : (fatesUnder settings labels ticket).length =
    (fatesOf settings labels).countP fun fate => fate.1 == ticket := by
  rw [fatesUnder, List.length_map, List.countP_eq_length_filter]

section Run

variable (run : Run settings (initial settings) labels events s)
include run

/-- Requests that were accepted under one ticket are the same. -/
theorem request_eq {one other : Request} (first : one ∈ acceptedIn events)
    (second : other ∈ acceptedIn events) (same : one.ticket = other.ticket) : one = other :=
  eq_of_countP_le_one (p := fun request => request.ticket == other.ticket)
    (accepted_le_one run other.ticket) first second (beq_iff_eq.2 same) BEq.rfl

/-- What a call sent was accepted. -/
theorem accepted_of_errand {errand : Errand} (sent : errand ∈ errandsOf settings labels) :
    errand.request ∈ acceptedIn events :=
  errands_of_run run ▸ List.mem_map_of_mem sent

/-- Errands under one ticket are the same. -/
theorem errand_eq {one other : Errand} (first : one ∈ errandsOf settings labels)
    (second : other ∈ errandsOf settings labels)
    (same : one.request.ticket = other.request.ticket) : one = other := by
  have once := accepted_le_one run other.request.ticket
  rw [← errands_of_run run, List.countP_map] at once
  exact eq_of_countP_le_one once first second (beq_iff_eq.2 same) BEq.rfl

/-- The wait for a letter ends once. -/
theorem length_fatesUnder_le (ticket : Ticket) :
    (fatesUnder settings labels ticket).length ≤ 1 := by
  have all := claims_of_run run ticket
  have most := accepted_le_one run ticket
  rw [length_fatesUnder]
  omega

/-- The end of the wait for a letter is the only one. -/
theorem fatesUnder_eq {ticket : Ticket} {fate : Fate}
    (member : (ticket, fate) ∈ fatesOf settings labels) :
    fatesUnder settings labels ticket = [fate] := by
  have there := mem_fatesUnder_iff.2 member
  have one := Nat.le_antisymm (length_fatesUnder_le run ticket) (List.length_pos_of_mem there)
  obtain ⟨only, eq⟩ := List.length_eq_one_iff.1 one
  rw [eq, List.mem_singleton] at there
  rw [eq, there]

/-- The way in which the wait for the reply to an errand has ended fits the errand. -/
theorem fits_of_errand {errand : Errand} (sent : errand ∈ errandsOf settings labels) {fate : Fate}
    (member : (errand.request.ticket, fate) ∈ fatesOf settings labels) :
    fate.Fits events errand := by
  obtain ⟨other, known, own, fits⟩ := fits_of_run run _ member
  exact errand_eq run known sent own ▸ fits

/-- The time for a letter whose wait has ended had run out exactly if the letter came late. -/
theorem mem_overdueOf_iff {ticket : Ticket} {fate : Fate}
    (member : (ticket, fate) ∈ fatesOf settings labels) :
    ticket ∈ overdueOf settings labels ↔ fate.isLate = true := by
  have all := claims_of_run run ticket
  have most := accepted_le_one run ticket
  have late := late_of_run run ticket
  have ended : 0 < (fatesOf settings labels).countP fun fate => fate.1 == ticket :=
    List.countP_pos_iff.2 ⟨_, member, BEq.rfl⟩
  have own : (fatesOf settings labels).countP (fun fate => fate.1 == ticket && fate.2.isLate) =
      fate.isLate.toNat := by
    calc (fatesOf settings labels).countP (fun fate => fate.1 == ticket && fate.2.isLate)
        = (fatesUnder settings labels ticket).countP Fate.isLate := by
          rw [fatesUnder, List.countP_map, List.countP_filter]
          exact List.countP_congr fun fate _ => by simp [and_comm]
      _ = fate.isLate.toNat := by
          rw [fatesUnder_eq run member, countP_cons_toNat, List.countP_nil, Nat.zero_add]
  have nobody : s.late.countP (fun l => l.ticket == ticket) = 0 := by
    unfold claims at all
    omega
  rw [nobody, own, Nat.zero_add] at late
  rw [← List.count_pos_iff, ← late]
  cases fate.isLate <;> decide

end Run

/-! ## The vector of a reply -/

/-- What has become of the vector that a worker replied to an errand of a call that uses the
cache. -/
inductive Kept (settings : Settings) (labels : List Label) (events : List Event) (s : State)
    (errand : Errand) (embedding : Embedding) : Prop
  /-- The caller collected it in time, and it was remembered once. -/
  | collected
      (ended : fatesUnder settings labels errand.request.ticket =
        [.collected true errand.request.text (.reply (.ok embedding))])
      (inTime : errand.request.ticket ∉ overdueOf settings labels)
      (once : rememberedFor settings labels errand.request.ticket =
        [(keyOf settings errand.request.text, embedding)])
  /-- The caller had been told that it is late, and it was remembered once when it came. -/
  | receivedLate
      (ended : fatesUnder settings labels errand.request.ticket =
        [.receivedLate errand.request.text (.reply (.ok embedding))])
      (late : errand.request.ticket ∈ overdueOf settings labels)
      (once : rememberedFor settings labels errand.request.ticket =
        [(keyOf settings errand.request.text, embedding)])
  /-- The caller went away while it waited for it, and it is never remembered. -/
  | dropped
      (ended : fatesUnder settings labels errand.request.ticket = [.dropped])
      (left : ∃ unsent, .left errand.call unsent ∈ events)
      (inTime : errand.request.ticket ∉ overdueOf settings labels)
      (never : rememberedFor settings labels errand.request.ticket = [])
  /-- Its letter is there for somebody who waits for it; after its time it can be received. -/
  | awaited
      (waits : fatesUnder settings labels errand.request.ticket = [])
      (arrived : (errand.request.ticket, .reply (.ok embedding)) ∈ s.letters)
      (isOpen : s.isOpen errand.request.ticket = true)
      (late : errand.request.ticket ∈ overdueOf settings labels →
        ∃ t, step settings s (.receiveLate errand.request.ticket) =
          some (t, [.remembered (keyOf settings errand.request.text) embedding]))
      (notYet : rememberedFor settings labels errand.request.ticket = [])

section Run

variable (run : Run settings (initial settings) labels events s)
include run

/-- The letter under the ticket of a request that was replied to is the reply. -/
theorem letter_eq_of_replied {w : WorkerId} {request other : Request} {outcome : ItemOutcome}
    {letter : Letter} (replied : .replied w request outcome ∈ events)
    (disposed : (other, some letter) ∈ dischargesIn events)
    (same : other.ticket = request.ticket) : letter = .reply outcome := by
  cases discharge_eq run disposed (replied_iff.2 ⟨w, replied⟩) same
  rfl

/-- A letter that came after its time can be received. -/
theorem exists_receiveLate {errand : Errand} (sent : errand ∈ errandsOf settings labels)
    (waits : fatesUnder settings labels errand.request.ticket = [])
    (late : errand.request.ticket ∈ overdueOf settings labels) {outcome : ItemOutcome}
    (arrived : (errand.request.ticket, .reply outcome) ∈ s.letters) :
    ∃ t, step settings s (.receiveLate errand.request.ticket) =
      some (t, rememberEvents settings errand.request.text outcome) := by
  have waiting := late_of_run run errand.request.ticket
  have none := length_fatesUnder errand.request.ticket ▸ List.length_eq_zero_iff.2 waits
  have due := List.count_pos_iff.2 late
  have nobody : (fatesOf settings labels).countP (fun fate =>
      fate.1 == errand.request.ticket && fate.2.isLate) = 0 := by
    rw [List.countP_eq_zero] at none ⊢
    intro fate member both
    exact none fate member (Bool.and_eq_true_iff.1 both).1
  have someone : 0 < s.late.countP fun l => l.ticket == errand.request.ticket := by omega
  obtain ⟨l, awaited⟩ := Option.isSome_iff_exists.1
    (List.find?_isSome.2 (List.countP_pos_iff.1 someone))
  have own : l.ticket = errand.request.ticket := by simpa using List.find?_some awaited
  obtain ⟨id, known⟩ := (sent_of_run run).late l (List.mem_of_find?_eq_some awaited)
  have text : l.text = errand.request.text := by rw [← errand_eq run known sent own]
  obtain ⟨letter, found⟩ := Posted.letter? ⟨_, arrived⟩
  obtain ⟨one, sameOne, first⟩ := discharge_of_letter run (mem_of_letter? found)
  obtain ⟨other, sameOther, second⟩ := discharge_of_letter run arrived
  cases discharge_eq run first second (sameOne.trans sameOther.symm)
  have next : step settings s (.receiveLate errand.request.ticket) =
      some (Caller.remember settings { s.takeLetter errand.request.ticket with
        late := s.late.filter fun l => l.ticket != errand.request.ticket } l.text outcome) := by
    rw [step, Caller.receiveLate, awaited, found]
  rw [remember_eq, text] at next
  exact ⟨_, next⟩

/-- The vector that a worker replies to an errand of a call that uses the cache is remembered once,
unless the caller goes away before. -/
theorem kept_of_replied {errand : Errand} (sent : errand ∈ errandsOf settings labels)
    (cached : errand.cached = true) {w : WorkerId} {embedding : Embedding}
    (replied : .replied w errand.request (.ok embedding) ∈ events) :
    Kept settings labels events s errand embedding := by
  have accepted := accepted_of_errand run sent
  cases ends : fatesUnder settings labels errand.request.ticket with
  | nil =>
    have none := length_fatesUnder errand.request.ticket ▸ List.length_eq_zero_iff.2 ends
    have arrived := letter_of_discharge run (replied_iff.2 ⟨w, replied⟩) none
    exact .awaited ends arrived ((isOpen_iff_of_accepted run accepted).2 none)
      (fun late => exists_receiveLate run sent ends late arrived) (by rw [rememberedFor, ends]; rfl)
  | cons fate rest =>
    have member := mem_fatesUnder_iff.1 (ends ▸ List.mem_cons_self : fate ∈ fatesUnder ..)
    have only := fatesUnder_eq run member
    have fits := fits_of_errand run sent member
    have late := mem_overdueOf_iff run member
    have told {letter : Letter} (some : fate.letter? = some letter) :
        letter = .reply (.ok embedding) := by
      obtain ⟨other, same, disposed⟩ := discharge_of_fate run member some
      exact letter_eq_of_replied run replied disposed same
    cases fate with
    | collected used text letter =>
      obtain ⟨rfl, rfl⟩ := fits
      obtain rfl := told rfl
      rw [cached] at only
      exact .collected only (by simp [late, Fate.isLate]) (by rw [rememberedFor, only]; rfl)
    | receivedLate text letter =>
      obtain ⟨-, rfl⟩ := fits
      obtain rfl := told rfl
      exact .receivedLate only (late.2 rfl) (by rw [rememberedFor, only]; rfl)
    | dropped =>
      exact .dropped only fits (by simp [late, Fate.isLate]) (by rw [rememberedFor, only]; rfl)
    | lapsed =>
      rw [show errand.cached = false from fits] at cached
      cases cached

/-- A request of a call that uses the cache is passed over only if the caller went away before its
time ran out. -/
theorem dropped_of_passedOver {errand : Errand} (sent : errand ∈ errandsOf settings labels)
    (cached : errand.cached = true) {w : WorkerId}
    (passed : .checked w errand.request false ∈ events) :
    errand.request.ticket ∉ overdueOf settings labels ∧
      fatesUnder settings labels errand.request.ticket = [.dropped] ∧
      ∃ unsent, .left errand.call unsent ∈ events := by
  have disposed : (errand.request, none) ∈ dischargesIn events :=
    List.mem_flatMap.2 ⟨_, passed, List.mem_singleton_self _⟩
  obtain ⟨fate, member, none⟩ := fate_of_passedOver run disposed
  have fits := fits_of_errand run sent member
  have late := mem_overdueOf_iff run member
  cases fate with
  | collected => cases none
  | receivedLate => cases none
  | dropped => exact ⟨by simp [late, Fate.isLate], fatesUnder_eq run member, fits⟩
  | lapsed =>
    rw [show errand.cached = false from fits] at cached
    cases cached

/-- Only vectors that workers replied to errands of calls that use the cache are remembered. -/
theorem source_of_remembered {ticket : Ticket} {entry : Key × Embedding}
    (member : entry ∈ rememberedFor settings labels ticket) :
    ∃ errand ∈ errandsOf settings labels, errand.request.ticket = ticket ∧
      errand.cached = true ∧ entry.1 = keyOf settings errand.request.text ∧
      ∃ w, .replied w errand.request (.ok entry.2) ∈ events := by
  obtain ⟨fate, under, remembers⟩ := List.mem_flatMap.1 member
  have ended := mem_fatesUnder_iff.1 under
  obtain ⟨errand, sent, own, fits⟩ := fits_of_run run _ ended
  obtain ⟨cached, key, told⟩ := fits.of_mem_remembers remembers
  obtain ⟨request, same, disposed⟩ := discharge_of_fate run ended told
  obtain rfl := request_eq run (accepted_of_discharge run disposed)
    (accepted_of_errand run sent) (same.trans own.symm)
  exact ⟨errand, sent, own, cached, key, replied_iff.1 disposed⟩

/-- Nothing is remembered of what a call sent that does not use the cache, of a request that was
replied to with a failure, or of one whose caller went away while it waited. -/
theorem rememberedFor_eq_nil {errand : Errand} (sent : errand ∈ errandsOf settings labels)
    (unfit : errand.cached = false ∨
      (∃ w failure, .replied w errand.request (.error failure) ∈ events) ∨
      fatesUnder settings labels errand.request.ticket = [.dropped]) :
    rememberedFor settings labels errand.request.ticket = [] := by
  rw [List.eq_nil_iff_forall_not_mem]
  intro entry member
  obtain ⟨other, known, own, cached, -, w, replied⟩ := source_of_remembered run member
  obtain rfl := errand_eq run known sent own
  rcases unfit with unused | ⟨v, failure, refused⟩ | dropped
  · rw [unused] at cached
    cases cached
  · cases letter_eq_of_replied run replied (replied_iff.2 ⟨v, refused⟩) rfl
  · rw [rememberedFor, dropped] at member
    cases member

/-- The requests that were accepted have different tickets. -/
theorem nodup_errands :
    ((errandsOf settings labels).map fun errand => errand.request.ticket).Nodup := by
  rw [List.nodup_iff_count]
  intro ticket
  have once := accepted_le_one run ticket
  rw [← errands_of_run run, List.countP_map] at once
  rw [List.count, List.countP_map]
  exact once

end Run

/-! ## The policy -/

/-- How a service uses its cache in a run. -/
structure CachingPolicy (settings : Settings) (labels : List Label) (events : List Event)
    (s : State) : Prop where
  /-- The cache is what the texts that were looked up and the vectors that were remembered make of
  an empty one. -/
  cache_eq : s.cache = Cache.after settings.cacheCapacity (operations settings events)
  /-- Each text that was looked up is counted as found or as not found, up to a multiple of
  `2 ^ 64`. -/
  counted : s.cache.hits + s.cache.misses = UInt64.ofNat (events.countP Event.isLookUp)
  /-- Each call that uses the cache has looked up what it was asked for, one text after the other,
  except the texts that it has still to hand in. The other calls look up nothing. -/
  looked : ∀ call ∈ s.calls, call.Looking (usesCache labels call.id) (asked labels call.id)
    (looksOf settings labels call.id)
  /-- When a call that uses the cache is answered, it has looked up each of its texts once. -/
  answered : ∀ id t outcomes,
    step settings s (.caller id .answer) = some (t, [.answered id outcomes]) →
    usesCache labels id = true → looksOf settings labels id = asked labels id
  /-- The requests that were accepted are those that calls have sent. -/
  errands_eq : (errandsOf settings labels).map Errand.request = acceptedIn events
  /-- No two of them have the same ticket. -/
  apart : ((errandsOf settings labels).map fun errand => errand.request.ticket).Nodup
  /-- What a call that uses the cache has sent it has looked up and not found, each time anew. -/
  missed : ∀ id text, (errandsOf settings labels).countP (Errand.isFor id text) ≤
    (missedIn events).count (id, text)
  /-- The vector that a worker replied to what such a call sent is remembered once when its letter
  is taken, in time or late, unless the caller went away before. -/
  kept : ∀ errand ∈ errandsOf settings labels, errand.cached = true → ∀ w embedding,
    .replied w errand.request (.ok embedding) ∈ events →
    Kept settings labels events s errand embedding
  /-- A worker passes over what such a call sent only if the caller went away in time. -/
  passedOver : ∀ errand ∈ errandsOf settings labels, errand.cached = true → ∀ w,
    .checked w errand.request false ∈ events →
    errand.request.ticket ∉ overdueOf settings labels ∧
      fatesUnder settings labels errand.request.ticket = [.dropped] ∧
      ∃ unsent, .left errand.call unsent ∈ events
  /-- Whatever is remembered is remembered when the wait for a letter ends. -/
  remembered_eq : rememberedIn events =
    (fatesOf settings labels).flatMap fun fate => fate.2.remembers settings
  /-- The wait for a letter ends at most once. -/
  once : ∀ ticket, (fatesUnder settings labels ticket).length ≤ 1
  /-- Only vectors that workers replied to what such calls sent are remembered. -/
  source : ∀ ticket, ∀ entry ∈ rememberedFor settings labels ticket,
    ∃ errand ∈ errandsOf settings labels, errand.request.ticket = ticket ∧
      errand.cached = true ∧ entry.1 = keyOf settings errand.request.text ∧
      ∃ w, .replied w errand.request (.ok entry.2) ∈ events
  /-- Nothing is remembered of what the other calls sent, of a request that was replied to with a
  failure, or of one whose caller went away while it waited. -/
  nothing : ∀ errand ∈ errandsOf settings labels,
    (errand.cached = false ∨ (∃ w failure, .replied w errand.request (.error failure) ∈ events) ∨
      fatesUnder settings labels errand.request.ticket = [.dropped]) →
    rememberedFor settings labels errand.request.ticket = []

/-- A call that is answered has looked up each of its texts once, if it uses the cache. -/
theorem looksOf_of_answered (run : Run settings (initial settings) labels events s) {id : CallId}
    {outcomes : List ItemOutcome}
    (next : step settings s (.caller id .answer) = some (t, [.answered id outcomes]))
    (uses : usesCache labels id = true) : looksOf settings labels id = asked labels id := by
  obtain ⟨call, found, collecting, -, -⟩ :=
    collected_of_answered (transition_of_step next) (List.mem_singleton_self _)
  obtain ⟨-, looked⟩ := looks_of_run run call (mem_of_call? found)
  rw [id_of_call? found, uses, if_pos rfl, texts_of_isCollecting collecting, List.append_nil]
    at looked
  exact looked.symm

/-- In every run, whatever loaders and models do, whenever time passes and whoever goes away, the
service keeps to its policy: each text handed in is looked up once, and the vector that a worker
replies to a text that was not found is remembered once when its letter is taken, by the caller that
still waits or, after the caller was told that it is late, by whoever waits in its place. The worker
passes over no request that is waited for so. Nothing is remembered of a failure, of a text that was
found or whose request was refused, of a call that does not use the cache, or of a caller that went
away while it waited. -/
theorem caching_policy (run : Run settings (initial settings) labels events s) :
    CachingPolicy settings labels events s where
  cache_eq := cache_of_run run
  counted := hits_add_misses run
  looked := looks_of_run run
  answered _ _ _ := looksOf_of_answered run
  errands_eq := errands_of_run run
  apart := nodup_errands run
  missed := errands_le_missed run
  kept _ sent cached _ _ := kept_of_replied run sent cached
  passedOver _ sent cached _ := dropped_of_passedOver run sent cached
  remembered_eq := remembered_of_run run
  once := length_fatesUnder_le run
  source _ _ := source_of_remembered run
  nothing _ := rememberedFor_eq_nil run

/-- A caller is told that the vector for its text is late, before the worker has computed it. -/
def latecomer : List Label :=
  [.start, .embed 0 ["a"]] ++ handIn 0 ++
    [.worker 0 .take, .worker 0 .closeBatch, .worker 0 .check, .worker 0 .proceed,
      .worker 0 (.finishLoading (.done ())), .pass mocked.requestTimeout, .caller 0 .expire,
      .caller 0 .answer,
      .worker 0 (.finishComputing { Mock.engine {} mocked.model with
        forward := fun _ => .done (.ofFlat 1 1 2 #[3, 4] 0) }),
      .worker 0 .reply, .receiveLate 0]

/-- The vector is remembered when it comes, once. -/
theorem latecomer_remembered :
    ∃ events s, Run mocked (initial mocked) latecomer events s ∧
      overdueOf mocked latecomer = [0] ∧
      rememberedIn events = [(keyOf mocked "a", [0.6, 0.8])] ∧
      rememberedFor mocked latecomer 0 = [(keyOf mocked "a", [0.6, 0.8])] ∧
      CachingPolicy mocked latecomer events s := by
  have ran : ((stepAll mocked (initial mocked) latecomer).map fun outcome =>
      rememberedIn outcome.2) = some [(keyOf mocked "a", [0.6, 0.8])] := by decide +kernel
  obtain ⟨⟨s, events⟩, stepped, remembered⟩ := Option.map_eq_some_iff.1 ran
  exact ⟨events, s, run_of_stepAll stepped, by decide +kernel, remembered, by decide +kernel,
    caching_policy (run_of_stepAll stepped)⟩

end Matryoshka.Service
