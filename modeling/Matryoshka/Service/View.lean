import Matryoshka.Service.Step
import Matryoshka.Wire.Stats

/-!
# What a service shows of itself

The status is that of the worker started last, whether it is still held or not. The
health follows from the queue: above four fifths of its capacity a service is
degraded. Looking changes nothing.
-/

namespace Matryoshka.Service

variable (settings : Settings)

/-- The status of the worker started last. -/
def status (s : State) : WorkerStatus :=
  match s.workers.getLast? with
  | some worker => worker.status
  | none => .unloaded

/-- Whether there is a worker that new requests go to. -/
def isRunning (s : State) : Bool := s.handle.isSome

/-- The part of the queue that is taken. -/
def utilization (s : State) : Float :=
  s.counters.queueDepth.toFloat / settings.queueCapacity.toUInt64.toFloat

/-- Above this part of the queue a service is degraded. -/
def highWatermark : Float := 0.8

/-- How well a service serves. -/
def health (s : State) : Health :=
  if isRunning s then
    if utilization settings s > highWatermark then .degraded else .healthy
  else .unavailable

/-- The statistics of a service. -/
def stats (s : State) : Wire.Stats where
  model := settings.model.name
  dimension := settings.effectiveDim
  status := status s
  cache := .ofCache s.cache
  counters := s.counters

/-- What a service says about itself. -/
def healthReport (s : State) : Wire.HealthReport where
  status := health settings s
  model := settings.model.name
  dimension := settings.effectiveDim
  worker := status s
  queueDepth := s.counters.queueDepth.toNat
  queueCapacity := settings.queueCapacity

end Matryoshka.Service
