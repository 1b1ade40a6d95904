import Matryoshka.Service.Step

/-!
# The work that is left

A number for every state that bounds how many steps callers and workers can still
make when nobody calls again: every text that was not looked at stands for the
steps of its caller and for those of the worker that computes it. So a service
comes to rest after at most `State.work` steps.
-/

namespace Matryoshka.Service

/-- The work of a request that waits in a queue. -/
def queuedWork : Nat := 11

/-- The work of a text that nobody has looked at. -/
def textWork : Nat := queuedWork + 5

/-- The work of the text at hand. -/
def Stage.work : Stage → Nat
  | .handing => 0
  | .submitting _ => queuedWork + 4
  | .sending _ _ => queuedWork + 3

/-- The work that is left for a call. -/
def Call.work (call : Call) : Nat :=
  1 + textWork * call.texts.length + call.stage.work + 2 * call.slots.length

/-- The work that is left for what a worker is doing. -/
def Phase.work : Phase → Nat
  | .waiting => 1
  | .gathering batch => 8 + 3 * batch.length
  | .checking live rest => 7 + 2 * live.length + 3 * rest.length
  | .loading batch => 6 + 2 * batch.length
  | .computing batch => 4 + 2 * batch.length
  | .replying replies _ _ => 2 + replies.length
  | .stopped | .crashed => 0

/-- The work that is left for a worker. -/
def Worker.work (worker : Worker) : Nat :=
  queuedWork * worker.queue.length + worker.phase.work + (if worker.held.isSome then 1 else 0)

/-- The work of several things together. -/
def total {α : Type} (work : α → Nat) (things : List α) : Nat :=
  things.foldr (fun thing left => work thing + left) 0

/-- The work that is left. -/
def State.work (s : State) : Nat :=
  total Call.work s.calls + s.endings.length + s.late.length + total Worker.work s.workers

end Matryoshka.Service
