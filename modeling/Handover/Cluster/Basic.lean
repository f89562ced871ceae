import Handover.Cluster.Process
import Handover.Cluster.Setup

/-! # Clusters

The cluster stands for the replication layer and its workers.  It holds the true state of every
entity, sends each process what the process may see, and applies the access lists that processes ask
for.  At the start the first worker owns every entity.
-/

namespace Handover

/-- The true state of an entity. -/
structure EntityState where
  intent : VirtualWorkerId
  /-- The worker with write authority over the access list and over every other component. -/
  owner : WorkerName
  acl : AccessList
  components : List ComponentId
deriving DecidableEq

namespace EntityState

def ofSeed (seed : EntitySeed) (owner : WorkerName) : EntityState :=
  ⟨seed.intent, owner, .granting owner seed.components, seed.components⟩

/-- The messages that make an entity visible to a worker that knows nothing of it. -/
def snapshot (entity : EntityId) (state : EntityState) (worker : WorkerName) : List WorkerOp :=
  [.addComponent entity (.intent state.intent),
    .addComponent entity (.accessList state.acl),
    .addComponent entity (.presence state.components)] ++
  if state.owner = worker then [.changeAuthority entity .accessList .authoritative] else []

end EntityState

structure Cluster where
  /-- The processes, in the order of the scenario. -/
  processes : List Process
  entities : Std.ExtTreeMap EntityId EntityState
  mapping : MappingUpdate
  loadBalancing : Bool
  rescanInterval : Nat
  intentChanges : List IntentChange
  restarts : List WorkerRestart
  tick : Nat
  handovers : Nat

namespace Cluster

/-- The messages that make every entity visible to a worker, by ascending entity. -/
def snapshot (entities : Std.ExtTreeMap EntityId EntityState) (worker : WorkerName) :
    List WorkerOp :=
  entities.toList.flatMap fun (entity, state) => state.snapshot entity worker

/-! ## The start -/

/-- The entities that stand for workers are numbered from here. -/
def firstWorkerEntity : Nat := 10000

/-- The mapping of a list of workers: virtual workers 1, 2, … and one entity for each. -/
def mappingOf (workers : List WorkerName) : MappingUpdate :=
  .ofWorkers (workers.mapIdx fun i worker => (worker, ⟨.ofNat (firstWorkerEntity + i)⟩))

/-- The cluster of a scenario before its first tick. -/
def initial (settings : Settings) : Cluster :=
  let scenario := settings.scenario
  let owner := scenario.workers.headD .nobody
  let entities := .ofList (scenario.entities.map fun seed => (seed.id, EntityState.ofSeed seed owner))
  let mapping := mappingOf scenario.workers
  { processes := scenario.workers.map fun worker =>
      .boot worker [mapping] (snapshot entities worker)
    entities
    mapping
    loadBalancing := settings.loadBalancing.enabled
    rescanInterval := settings.coordination.rescanInterval.toNat
    intentChanges := scenario.intentChanges
    restarts := scenario.restarts
    tick := 0
    handovers := 0 }

def new (settings : Settings) : Except SetupError Cluster :=
  match settings.scenario.fault? with
  | some error => .error error
  | none => .ok (initial settings)

/-- What is reported while a cluster is set up, whether or not it can be run. -/
def setupEvents (settings : Settings) : List Event :=
  let scenario := settings.scenario
  if scenario.workersFault?.isSome then []
  else
    let known (id : VirtualWorkerId) : Bool := ((mappingOf scenario.workers).workerOf id).isSome
    let stray := (Scenario.strayEntities known [] scenario.entities).map fun seed =>
      .strayIntent seed.id seed.intent
    match new settings with
    | .error _ => stray
    | .ok cluster =>
      stray ++ [.booted cluster.processes.length cluster.entities.size cluster.loadBalancing]

/-! ## Queries -/

def owner? (cluster : Cluster) (entity : EntityId) : Option WorkerName :=
  cluster.entities[entity]?.map (·.owner)

/-- The owner of every entity, by ascending entity. -/
def owners (cluster : Cluster) : List (EntityId × WorkerName) :=
  cluster.entities.toList.map fun (entity, state) => (entity, state.owner)

/-- The worker that serves the virtual worker an entity is meant for. -/
def intendedOwner? (cluster : Cluster) (state : EntityState) : Option WorkerName :=
  cluster.mapping.workerOf state.intent

/-- The entities that are not owned by the worker they are meant for, in ascending order. -/
def misplaced (cluster : Cluster) : List EntityId :=
  (cluster.entities.toList.filter fun (_, state) =>
    cluster.intendedOwner? state ≠ some state.owner).map (·.1)

structure Report where
  ticks : Nat
  handovers : Nat
  misplaced : List EntityId
deriving DecidableEq

/-- Whether every entity is where it is meant to be. -/
def Report.converged (report : Report) : Bool := report.misplaced.isEmpty

def report (cluster : Cluster) : Report := ⟨cluster.tick, cluster.handovers, cluster.misplaced⟩

end Cluster

end Handover
