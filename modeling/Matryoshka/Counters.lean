/-!
# Counters

What a service has done since it was made. All counters are words of 64 bits: the
totals wrap around, the depth of the queue stops at zero when it is lowered.
-/

namespace Matryoshka

/-- What has happened so far. -/
structure Counters where
  /-- Requests handed to a worker and not taken yet. -/
  queueDepth : UInt64 := 0
  /-- Requests answered with a vector. -/
  processed : UInt64 := 0
  /-- Requests answered with a failure. -/
  failed : UInt64 := 0
  /-- Batches computed. -/
  batches : UInt64 := 0
  /-- Models loaded. -/
  loads : UInt64 := 0
  /-- Models unloaded because nobody used them. -/
  idleUnloads : UInt64 := 0
  deriving Repr, DecidableEq

namespace Counters

/-- A request is about to be queued. -/
def raiseQueue (c : Counters) : Counters := { c with queueDepth := c.queueDepth + 1 }

/-- A request has left the queue. -/
def lowerQueue (c : Counters) : Counters :=
  { c with queueDepth := if c.queueDepth = 0 then 0 else c.queueDepth - 1 }

/-- Requests were answered with vectors. -/
def addProcessed (c : Counters) (count : UInt64) : Counters :=
  { c with processed := c.processed + count }

/-- Requests were answered with failures. -/
def addFailed (c : Counters) (count : UInt64) : Counters := { c with failed := c.failed + count }

/-- A batch is about to be computed. -/
def addBatch (c : Counters) : Counters := { c with batches := c.batches + 1 }

/-- A model was loaded. -/
def addLoad (c : Counters) : Counters := { c with loads := c.loads + 1 }

/-- A model was unloaded because nobody used it. -/
def addIdleUnload (c : Counters) : Counters := { c with idleUnloads := c.idleUnloads + 1 }

end Counters

end Matryoshka
