/-!
# Status

A worker publishes where it stands in the life of its model; a service sums up how
well it can serve. Both have fixed names on the wire.
-/

namespace Matryoshka

/-- Where a worker stands. -/
inductive WorkerStatus where
  /-- No model is held. -/
  | unloaded
  /-- The loader runs. -/
  | loading
  /-- A model is held. -/
  | loaded
  /-- The worker has ended. -/
  | stopped
  deriving Repr, DecidableEq

/-- The name of a worker status. -/
def WorkerStatus.label : WorkerStatus → String
  | unloaded => "unloaded"
  | loading => "loading"
  | loaded => "loaded"
  | stopped => "stopped"

/-- The worker statuses by name. -/
def WorkerStatus.table : List (String × WorkerStatus) :=
  [.unloaded, .loading, .loaded, .stopped].map fun status => (status.label, status)

/-- How well a service can serve. -/
inductive Health where
  /-- Requests are served. -/
  | healthy
  /-- Requests are served, but the queue is close to full. -/
  | degraded
  /-- The service was not started, or has been shut down. -/
  | unavailable
  deriving Repr, DecidableEq

/-- The name of a state of health. -/
def Health.label : Health → String
  | healthy => "healthy"
  | degraded => "degraded"
  | unavailable => "unavailable"

/-- The states of health by name. -/
def Health.table : List (String × Health) :=
  [.healthy, .degraded, .unavailable].map fun health => (health.label, health)

end Matryoshka
