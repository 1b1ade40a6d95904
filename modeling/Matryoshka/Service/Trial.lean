import Matryoshka.Service.Drive
import Matryoshka.Service.View

/-!
# Trials of a worker

A trial hands texts to a worker one after the other, past the cache and with no limit
of time worth mentioning, and ends the worker.
-/

namespace Matryoshka.Service

/-- What a trial shows. -/
structure Trial where
  /-- The outcome for each text, and the status of the worker after it. -/
  steps : List (ItemOutcome × WorkerStatus)
  /-- How the worker ended. -/
  ending : Except Failure Nat
  /-- The last status of the worker. -/
  status : WorkerStatus
  /-- The counters. -/
  counters : Counters
  /-- The number of forward passes. -/
  passes : Nat

namespace Trial

/-- How long a caller waits, in milliseconds. -/
def patience : Nat := UInt64.size - 1

/-- Settings that leave all the time that is needed. -/
def relaxed (settings : Settings) : Settings :=
  { settings with requestTimeout := patience, requestTimeout_pos := by decide }

/-- Hand texts to the worker; the calls are numbered from `id`. -/
def handAll (settings : Settings) (loader : Loader) (d : Drive) (id : CallId) :
    List String → Drive × List (ItemOutcome × WorkerStatus)
  | [] => (d, [])
  | text :: texts =>
    let d := d.call settings loader (.probe id text) id
    let outcome := ((d.answer? id).bind List.head?).getD (.error (Caller.late settings))
    let d := d.rest settings loader
    let step := (outcome, Service.status d.service)
    let (d, steps) := handAll settings loader d (id + 1) texts
    (d, step :: steps)

/-- The trial of a worker, which is over at once if the worker cannot be started. -/
def run (settings : Settings) (loader : Loader) (texts : List String) : Attempt Trial :=
  let settings := relaxed settings
  let d := (Drive.initial settings).perform settings loader .start
  if d.isAborted then .aborted
  else
    let (d, steps) := handAll settings loader d 0 texts
    let last := texts.length
    let d := d.call settings loader (.shutDown last patience) last
    .done {
      steps := steps
      ending := (d.ending? last).getD (.error (.timeout patience))
      status := Service.status d.service
      counters := d.service.counters
      passes := d.passes }

end Trial

end Matryoshka.Service
