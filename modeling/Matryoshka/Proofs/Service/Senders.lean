import Matryoshka.Proofs.Service.WorkerHistory

/-!
# Who may send to a worker

A worker gets its first sender, the handle of the service, when it is started, and every other
sender comes from the handle (`hasSender_of_transition`). So a worker without a sender never gets
one again, and since a worker ends only without a sender, nobody ever sends to one that has ended
(`attended_of_run`), nor to one that is gone while no worker has broken off
(`there_of_hasSender`).
-/

namespace Matryoshka.Service

variable {settings : Settings} {s t : State} {w : WorkerId}

/-- Somebody may send to a worker if the service holds it, or if a call waits for room in its
queue. -/
theorem hasSender_iff (s : State) (w : WorkerId) : s.hasSender w = true ↔
    s.handle = some w ∨ ∃ call ∈ s.calls, call.sendsTo w = true := by
  rw [State.hasSender, Bool.or_eq_true, beq_iff_eq, List.any_eq_true]

/-- A call sends to the worker in whose queue it waits for room. -/
theorem sendsTo_iff (call : Call) (w : WorkerId) :
    call.sendsTo w = true ↔ ∃ request, call.stage = .sending w request := by
  unfold Call.sendsTo
  cases stage : call.stage with
  | sending v request =>
    simp only [beq_iff_eq, Stage.sending.injEq]
    exact ⟨fun same => ⟨request, same, rfl⟩, fun ⟨_, same, _⟩ => same⟩
  | _ => simp

/-- While the service does not get hold of a worker, the worker has no sender if no call sends to
it that did not before. -/
theorem hasSender_of_calls (sender : t.hasSender w = true)
    (handle : t.handle = some w → s.handle = some w)
    (calls : ∀ call ∈ t.calls, call.sendsTo w = true → s.hasSender w = true) :
    s.hasSender w = true := by
  rcases (hasSender_iff t w).1 sender with held | ⟨call, member, sends⟩
  · exact (hasSender_iff s w).2 (.inl (handle held))
  · exact calls call member sends

/-- A step of a caller gives no worker its first sender. -/
theorem CallerStep.hasSender {id : CallId} {call : Call} {move : CallerMove}
    {events : List Event} (found : s.call? id = some call)
    (step : CallerStep settings s call move t events) (sender : t.hasSender w = true) :
    s.hasSender w = true := by
  have before (c : Call) (member : c ∈ s.calls) (sends : c.sendsTo w = true) :
      s.hasSender w = true := (hasSender_iff s w).2 (.inr ⟨c, member, sends⟩)
  have moved {call' : Call} (own : call'.sendsTo w = true → s.hasSender w = true) :
      ∀ c ∈ s.callsWith call', c.sendsTo w = true → s.hasSender w = true := by
    intro c member sends
    rcases mem_callsWith member with rfl | ⟨there, -⟩
    · exact own sends
    · exact before c there sends
  have removed : ∀ c ∈ s.callsWithout call.id, c.sendsTo w = true → s.hasSender w = true :=
    fun c member sends => before c (List.mem_filter.1 member).1 sends
  have same := before call (mem_of_call? found)
  cases step with
  | submit submitting held =>
    refine hasSender_of_calls sender (fun held => held) (moved fun sends => ?_)
    obtain ⟨request, sending⟩ := (sendsTo_iff _ w).1 sends
    cases sending
    exact (hasSender_iff s w).2 (.inl held)
  | collectSettled => exact hasSender_of_calls sender (fun held => held) (moved same)
  | receive => exact hasSender_of_calls sender (fun held => held) (moved same)
  | expire => exact hasSender_of_calls sender (fun held => held) (moved same)
  | answer => exact hasSender_of_calls sender (fun held => held) removed
  | leave => exact hasSender_of_calls sender (fun held => held) removed
  | _ => exact hasSender_of_calls sender (fun held => held) (moved nofun)

/-- A worker gets its first sender when it is started. -/
theorem hasSender_of_transition {label : Label} {events : List Event}
    (transition : Transition settings s label t events) (sender : t.hasSender w = true) :
    s.hasSender w = true ∨ label = .start ∧ w = s.workers.length := by
  have before (c : Call) (member : c ∈ s.calls) (sends : c.sendsTo w = true) :
      s.hasSender w = true := (hasSender_iff s w).2 (.inr ⟨c, member, sends⟩)
  have begun {call : Call} (silent : call.sendsTo w = false) :
      ∀ c ∈ s.calls ++ [call], c.sendsTo w = true → s.hasSender w = true := by
    intro c member sends
    rcases List.mem_append.1 member with there | new
    · exact before c there sends
    · rw [List.mem_singleton.1 new, silent] at sends
      cases sends
  cases transition with
  | start nobody =>
    rcases (hasSender_iff _ w).1 sender with held | ⟨c, member, sends⟩
    · exact .inr ⟨rfl, (Option.some.inj held).symm⟩
    · exact .inl (before c member sends)
  | embed => exact .inl (hasSender_of_calls sender (fun held => held) (begun rfl))
  | probe => exact .inl (hasSender_of_calls sender (fun held => held) (begun rfl))
  | shutDown => exact .inl (hasSender_of_calls sender nofun before)
  | caller found step => exact .inl (step.hasSender found sender)
  | _ => exact .inl (hasSender_of_calls sender (fun held => held) before)

/-- Every worker that somebody may send to is there, and has not ended. -/
def Attended (s : State) : Prop := ∀ w, s.hasSender w = true →
  ∃ worker, s.workers[w]? = some worker ∧ worker.phase ≠ .stopped

/-- A worker ends only when nobody may send to it. -/
theorem WorkerStep.noSender {worker worker' : Worker} {move : WorkerMove} {counters : Counters}
    {written : List (Ticket × Letter)} {events : List Event}
    (step : WorkerStep settings s w worker move worker' counters written events)
    (stopped : worker'.phase = .stopped) : s.hasSender w = false := by
  cases step with
  | stop _ _ noSender => exact noSender
  | unload phase =>
    rw [phase] at stopped
    cases stopped
  | _ => cases stopped

/-- Every step leaves the workers with a sender attended. -/
theorem Attended.transition {label : Label} {events : List Event} (attended : Attended s)
    (transition : Transition settings s label t events) : Attended t := by
  intro w sender
  rcases hasSender_of_transition transition sender with before | ⟨rfl, rfl⟩
  · obtain ⟨worker, found, there⟩ := attended w before
    obtain ⟨worker', still, -⟩ := change_of_transition transition found
    refine ⟨worker', still, ?_⟩
    rcases phase_eq_or_workerStep transition found still with
      same | ⟨move, counters, written, rfl, step⟩
    · rw [same]
      exact there
    · intro stopped
      rw [step.noSender stopped] at before
      cases before
  · cases transition with
    | startHeld held =>
      obtain ⟨worker, found, -⟩ := attended _ sender
      rw [List.getElem?_eq_none (Nat.le_refl _)] at found
      cases found
    | start nobody => exact ⟨{}, List.getElem?_concat_length, nofun⟩

/-- In every run the workers with a sender are attended. -/
theorem attended_of_run {labels : List Label} {events : List Event}
    (run : Run settings (initial settings) labels events s) : Attended s := by
  induction run with
  | none => exact nofun
  | step _ next ih => exact ih.transition (transition_of_step next)

/-- While no worker has broken off, every worker that somebody may send to reads its queue. -/
theorem there_of_hasSender {labels : List Label} {events : List Event}
    (run : Run settings (initial settings) labels events s)
    (whole : ∀ worker ∈ s.workers, worker.phase ≠ .crashed) (sender : s.hasSender w = true) :
    ∃ worker, s.workers[w]? = some worker ∧ worker.isGone = false := by
  obtain ⟨worker, found, running⟩ := attended_of_run run w sender
  have unbroken := whole worker (List.mem_of_getElem? found)
  refine ⟨worker, found, ?_⟩
  unfold Worker.isGone
  split
  · exact absurd ‹_› running
  · exact absurd ‹_› unbroken
  · rfl

end Matryoshka.Service
