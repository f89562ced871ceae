import Handover.Settings.Basic

/-! # Checking a scenario

A scenario can be run if it has workers, every worker and entity is named properly and once, and both
scripts name only workers and entities that it lists.  Otherwise the error is the first one met when
the lists are read in the order workers, entities, changes of intent, restarts, each from its start.
-/

namespace Handover

inductive SetupError where
  | noWorkers
  | unnamedWorker
  | repeatedWorker (worker : WorkerName)
  | reservedEntity (entity : EntityId)
  | repeatedEntity (entity : EntityId)
  | unknownEntity (tick : UInt64) (entity : EntityId)
  | unknownWorker (tick : UInt64) (worker : WorkerName)
deriving DecidableEq

def SetupError.message : SetupError → String
  | noWorkers => "scenario needs at least one worker"
  | unnamedWorker => "worker names must not be empty"
  | repeatedWorker worker => s!"worker '{worker}' is listed twice"
  | reservedEntity entity => s!"entity id {entity} is reserved"
  | repeatedEntity entity => s!"entity {entity} is listed twice"
  | unknownEntity tick entity =>
    s!"intent change at tick {tick.toNat} names unknown entity {entity}"
  | unknownWorker tick worker => s!"restart at tick {tick.toNat} names unknown worker '{worker}'"

namespace Scenario

/-- The first fault in a list of workers, given those listed before. -/
def workerFault? (before : List WorkerName) : List WorkerName → Option SetupError
  | [] => none
  | worker :: workers =>
    if !worker.isValid then some .unnamedWorker
    else if worker ∈ before then some (.repeatedWorker worker)
    else workerFault? (worker :: before) workers

/-- The first fault in a list of entities, given those listed before. -/
def entityFault? (before : List EntityId) : List EntitySeed → Option SetupError
  | [] => none
  | seed :: seeds =>
    if !seed.id.isValid then some (.reservedEntity seed.id)
    else if seed.id ∈ before then some (.repeatedEntity seed.id)
    else entityFault? (seed.id :: before) seeds

/-- The first change of intent that names an entity the scenario does not list. -/
def changeFault? (scenario : Scenario) : Option SetupError :=
  (scenario.intentChanges.find? fun change => change.entity ∉ scenario.entities.map (·.id)).map
    fun change => .unknownEntity change.tick change.entity

/-- The first restart of a worker that the scenario does not list. -/
def restartFault? (scenario : Scenario) : Option SetupError :=
  (scenario.restarts.find? (·.worker ∉ scenario.workers)).map fun restart =>
    .unknownWorker restart.tick restart.worker

def workersFault? (scenario : Scenario) : Option SetupError :=
  if scenario.workers = [] then some .noWorkers else workerFault? [] scenario.workers

def fault? (scenario : Scenario) : Option SetupError :=
  scenario.workersFault? <|> entityFault? [] scenario.entities <|> scenario.changeFault? <|>
    scenario.restartFault?

/-- Of a list of entities, those up to the first fault that are meant for no known virtual worker.  An
entity that is listed twice is looked at before the repetition is noticed. -/
def strayEntities (known : VirtualWorkerId → Bool) (before : List EntityId) :
    List EntitySeed → List EntitySeed
  | [] => []
  | seed :: seeds =>
    if !seed.id.isValid then []
    else
      (if known seed.intent then [] else [seed]) ++
        if seed.id ∈ before then [] else strayEntities known (seed.id :: before) seeds

end Scenario

end Handover
