import Handover.Duration
import Handover.Identifier

/-! # Settings

What a simulation is told: which workers and entities there are and what happens to them, how long
it runs, and what it reports.  A *scenario* lists the workers, the entities with the virtual workers
they are meant for, and two scripts: changes of intent by the balancer and restarts of workers, each
at a tick.  Everything but the workers of a given scenario may be left out.
-/

namespace Handover

structure LoadBalancing where
  /-- When off, no enforcer runs and no entity changes hands. -/
  enabled : Bool
deriving DecidableEq

structure Coordination where
  /-- Ticks per second. -/
  tickRate : UInt32
  ticks : UInt64
  /-- Every so many ticks each worker looks again at all entities it may hand over; never if 0. -/
  rescanInterval : UInt64
  /-- Whether to wait between ticks. -/
  realtime : Bool
deriving DecidableEq

structure EntitySeed where
  id : EntityId
  intent : VirtualWorkerId
  components : List ComponentId
deriving DecidableEq, Inhabited

/-- The balancer wants another virtual worker to own an entity. -/
structure IntentChange where
  tick : UInt64
  entity : EntityId
  intent : VirtualWorkerId
deriving DecidableEq, Inhabited

/-- A worker restarts and loses all it knew. -/
structure WorkerRestart where
  tick : UInt64
  worker : WorkerName
deriving DecidableEq, Inhabited

structure Scenario where
  /-- The processes; they serve virtual workers 1, 2, … in order. -/
  workers : List WorkerName
  entities : List EntitySeed
  intentChanges : List IntentChange
  restarts : List WorkerRestart
deriving DecidableEq

structure Settings where
  /-- What to report, when the environment does not say. -/
  logLevel : String
  loadBalancing : LoadBalancing
  coordination : Coordination
  scenario : Scenario
deriving DecidableEq

/-! ## Defaults -/

def LoadBalancing.standard : LoadBalancing := ⟨true⟩

def Coordination.standard : Coordination := ⟨30, 120, 30, false⟩

def Scenario.blank : Scenario := ⟨[], [], [], []⟩

/-- Three workers share six entities; two change hands at tick 40, and at tick 60 one is to do so while
its owner restarts. -/
def Scenario.standard : Scenario where
  workers := [⟨"ServerWorker1"⟩, ⟨"ServerWorker2"⟩, ⟨"ServerWorker3"⟩]
  entities := [
    ⟨⟨1⟩, ⟨1⟩, [100, 101, 102]⟩, ⟨⟨2⟩, ⟨2⟩, [100, 101, 102]⟩, ⟨⟨3⟩, ⟨3⟩, [100, 101, 102]⟩,
    ⟨⟨4⟩, ⟨1⟩, [100, 101, 102]⟩, ⟨⟨5⟩, ⟨2⟩, [100, 101, 102]⟩, ⟨⟨6⟩, ⟨3⟩, [100, 101, 102]⟩]
  intentChanges := [⟨40, ⟨1⟩, ⟨3⟩⟩, ⟨40, ⟨2⟩, ⟨1⟩⟩, ⟨60, ⟨5⟩, ⟨1⟩⟩]
  restarts := [⟨60, ⟨"ServerWorker2"⟩⟩]

def Settings.standard : Settings := ⟨"info", .standard, .standard, .standard⟩

/-! ## Time -/

namespace Coordination

/-- The length of a tick.  A rate of 0 counts as 1. -/
def tickDuration (coordination : Coordination) : Duration :=
  Duration.second.part (max coordination.tickRate 1).toUInt64

def simulatedTime (coordination : Coordination) (ticks : UInt64) : Duration :=
  coordination.tickDuration.times ticks

end Coordination

end Handover
