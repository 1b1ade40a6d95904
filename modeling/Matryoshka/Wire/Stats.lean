import Matryoshka.Cache
import Matryoshka.Counters
import Matryoshka.Status
import Matryoshka.Wire.Health

/-!
# Statistics

The counters of a service, of its cache and of its worker, as a client sees them.
-/

namespace Matryoshka.Wire

open Json

/-- The counters of a cache. -/
structure CacheStats where
  /-- How often a key was found. -/
  hits : UInt64
  /-- How often a key was not found. -/
  misses : UInt64
  /-- The number of entries. -/
  size : Nat
  /-- Most entries that are kept. -/
  capacity : Nat
  deriving Repr, DecidableEq

namespace CacheStats

/-- The counters of a cache. -/
def ofCache {κ ν : Type} (cache : Cache κ ν) : CacheStats :=
  ⟨cache.hits, cache.misses, cache.size, cache.capacity⟩

/-- The JSON text of the counters of a cache. -/
def print (stats : CacheStats) : List Char :=
  Print.object [
    ("hits", Print.count stats.hits.toNat),
    ("misses", Print.count stats.misses.toNat),
    ("size", Print.count stats.size),
    ("capacity", Print.count stats.capacity)]

end CacheStats

/-- The JSON text of counters. -/
def printCounters (counters : Counters) : List Char :=
  Print.object [
    ("queue_depth", Print.count counters.queueDepth.toNat),
    ("processed_total", Print.count counters.processed.toNat),
    ("failed_total", Print.count counters.failed.toNat),
    ("batches_total", Print.count counters.batches.toNat),
    ("model_loads", Print.count counters.loads.toNat),
    ("idle_unloads", Print.count counters.idleUnloads.toNat)]

/-- The statistics of a service. -/
structure Stats where
  /-- The name of its model. -/
  model : String
  /-- The number of components of its vectors. -/
  dimension : Nat
  /-- Where its worker stands. -/
  status : WorkerStatus
  /-- The counters of its cache. -/
  cache : CacheStats
  /-- Its own counters. -/
  counters : Counters
  deriving Repr, DecidableEq

namespace Stats

/-- The members of statistics. -/
def members (stats : Stats) : List (String × List Char) := [
  ("model", Print.string stats.model),
  ("effective_dim", Print.count stats.dimension),
  ("status", Print.string stats.status.label),
  ("cache", stats.cache.print),
  ("metrics", printCounters stats.counters)]

/-- The JSON text of statistics. -/
def print (stats : Stats) : List Char := Print.object stats.members

/-- The JSON text of statistics together with the version of the server. -/
def printWithVersion (stats : Stats) : List Char :=
  Print.object (("version", Print.string version) :: stats.members)

end Stats

end Matryoshka.Wire
