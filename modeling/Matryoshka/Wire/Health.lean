import Matryoshka.Status
import Matryoshka.Json.Print
import Matryoshka.Json.Record

/-!
# Health reports

What a server says about itself: how well it serves, which model it holds, and how
full its queue is.
-/

namespace Matryoshka.Wire

open Json

/-- The version of the server. -/
def version : String := "0.1.0"

/-- What a server says about itself. -/
structure HealthReport where
  /-- How well it serves. -/
  status : Health
  /-- The name of its model. -/
  model : String
  /-- Its version. -/
  version : String := Wire.version
  /-- The number of components of its vectors. -/
  dimension : Nat
  /-- Where its worker stands. -/
  worker : WorkerStatus
  /-- Requests that wait. -/
  queueDepth : Nat
  /-- Requests that may wait. -/
  queueCapacity : Nat
  deriving Repr, DecidableEq

namespace HealthReport

/-- Whether requests are accepted: a server that is close to its limits still serves. -/
def isServing (report : HealthReport) : Bool := report.status != .unavailable

/-- The JSON text of a report. -/
def print (report : HealthReport) : List Char :=
  Print.object [
    ("status", Print.string report.status.label),
    ("model", Print.string report.model),
    ("version", Print.string report.version),
    ("dimension", Print.count report.dimension),
    ("worker", Print.string report.worker.label),
    ("queue_depth", Print.count report.queueDepth),
    ("queue_capacity", Print.count report.queueCapacity)]

/-- The fields of a report as they are read. -/
structure Gathered where
  /-- How well the server serves. -/
  status : Option Health := none
  /-- The name of its model. -/
  model : Option String := none
  /-- Its version. -/
  version : Option String := none
  /-- The number of components of its vectors. -/
  dimension : Option Nat := none
  /-- Where its worker stands. -/
  worker : Option WorkerStatus := none
  /-- Requests that wait. -/
  queueDepth : Option Nat := none
  /-- Requests that may wait. -/
  queueCapacity : Option Nat := none

/-- A field that must have a value. -/
def required {α : Type} (name : String) : Option α → Except String α
  | some value => .ok value
  | none => .error name

/-- How a report is read. -/
def record : Record Gathered HealthReport where
  title := "struct HealthResponse"
  fields := [
    ⟨"status", fun g => g.status.isSome,
      fun g => mapReader (fun v => { g with status := some v }) (readChoice Health.table)⟩,
    ⟨"model", fun g => g.model.isSome,
      fun g => mapReader (fun v => { g with model := some v }) readString⟩,
    ⟨"version", fun g => g.version.isSome,
      fun g => mapReader (fun v => { g with version := some v }) readString⟩,
    ⟨"dimension", fun g => g.dimension.isSome,
      fun g => mapReader (fun v => { g with dimension := some v }) readCount⟩,
    ⟨"worker", fun g => g.worker.isSome,
      fun g => mapReader (fun v => { g with worker := some v }) (readChoice WorkerStatus.table)⟩,
    ⟨"queue_depth", fun g => g.queueDepth.isSome,
      fun g => mapReader (fun v => { g with queueDepth := some v }) readCount⟩,
    ⟨"queue_capacity", fun g => g.queueCapacity.isSome,
      fun g => mapReader (fun v => { g with queueCapacity := some v }) readCount⟩]
  start := {}
  finish g := do
    return {
      status := ← required "status" g.status
      model := ← required "model" g.model
      version := ← required "version" g.version
      dimension := ← required "dimension" g.dimension
      worker := ← required "worker" g.worker
      queueDepth := ← required "queue_depth" g.queueDepth
      queueCapacity := ← required "queue_capacity" g.queueCapacity }

/-- Read a report. -/
def read : Reader HealthReport := record.read

end HealthReport

end Matryoshka.Wire
