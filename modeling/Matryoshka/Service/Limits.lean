import Matryoshka.Service.Step

/-!
# Limits

Whoever opens a service, starts a worker or calls gives the program some number from its
settings that it cannot do with if it is too large. The room of the cache is taken when the
service is opened, that of a queue when its worker is started, and a caller sets a clock to the
moment at which it stops waiting. Where a limit is passed the one who acts breaks off and
changes nothing. A worker has two more limits of its own.
-/

namespace Matryoshka.Service

variable (settings : Settings)

/-- The memory of one entry of the table of a cache in bytes. -/
def entryBytes : Nat := 16

/-- Whether room for the table of the cache can be had. -/
def cacheFits : Bool := settings.cacheCapacity * entryBytes < Labor.memoryBound

/-- The room of a queue must be below this. -/
def queueBound : Nat := 0x2000000000000000

/-- Whether a queue can have the room that is wanted. -/
def queueFits : Bool := 0 < settings.queueCapacity && settings.queueCapacity < queueBound

/-- Whether a clock can be set for the moment at which a caller that comes now stops waiting. -/
def deadlineFits (s : State) : Bool := s.now + settings.requestTimeout < Labor.clockBound

/-- A service before its first start, unless there is no room for its cache. -/
def open? : Option State := if cacheFits settings then some (initial settings) else none

/-- Whether the one who begins a step breaks off. -/
def breaksOff (s : State) : Label → Bool
  | .start => s.handle.isNone && !queueFits settings
  | .embed _ _ | .probe _ _ => !deadlineFits settings s
  | _ => false

end Matryoshka.Service
