import Handover.Cluster.Basic

/-! # Coordination ticks

A tick first plays the scripts: the balancer's changes of intent, then restarts.  Then every process
takes what it was sent, and looks again at all it may hand over if the tick is one for that.  If load
balancing is on, all enforcers decide, and only then are their requests applied, one after another.
Messages sent during a tick are seen in the next one, except those of the scripts.

In which order a process visits the entities it looks at again is left open: it is a parameter of the
tick.
-/

namespace Handover

namespace Cluster

/-! ## Sending -/

def broadcast (cluster : Cluster) (op : WorkerOp) : Cluster :=
  { cluster with processes := cluster.processes.map (·.send op) }

def send (cluster : Cluster) (worker : WorkerName) (op : WorkerOp) : Cluster :=
  { cluster with
    processes := cluster.processes.map fun p => if p.name = worker then p.send op else p }

/-! ## The scripts -/

/-- The changes of intent that are due now, in the order of the script. -/
def dueChanges (cluster : Cluster) : List IntentChange :=
  cluster.intentChanges.filter (·.tick.toNat = cluster.tick)

/-- The restarts that are due now, in the order of the script. -/
def dueRestarts (cluster : Cluster) : List WorkerRestart :=
  cluster.restarts.filter (·.tick.toNat = cluster.tick)

/-- Means an entity for another virtual worker and tells every process. -/
def setIntent (cluster : Cluster) (change : IntentChange) : Logged Event Cluster :=
  match cluster.entities[change.entity]? with
  | none => pure cluster
  | some state => do
    Logged.report [.intentMoved cluster.tick change.entity change.intent]
    let entities := cluster.entities.insert change.entity { state with intent := change.intent }
    return { cluster with entities }.broadcast
      (.updateComponent change.entity (.intent change.intent))

/-- Replaces a process by a new one.  What waits for it is a mapping from before it was there, the
mapping in force, and the entities as they are. -/
def restart (cluster : Cluster) (worker : WorkerName) : Logged Event Cluster :=
  if cluster.processes.any (·.name = worker) then do
    Logged.report [.restarted cluster.tick worker]
    let fresh := Process.boot worker [cluster.mapping.without worker, cluster.mapping]
      (snapshot cluster.entities worker)
    return { cluster with
      processes := cluster.processes.map fun p => if p.name = worker then fresh else p }
  else pure cluster

/-- Starts the next tick and plays what is due in it. -/
def playScripts (cluster : Cluster) : Logged Event Cluster := do
  let cluster := { cluster with tick := cluster.tick + 1 }
  let cluster ← cluster.dueChanges.foldlM setIntent cluster
  cluster.dueRestarts.foldlM (fun cluster due => cluster.restart due.worker) cluster

/-! ## The processes -/

def eachProcess (cluster : Cluster) (f : Process → Logged Event Process) : Logged Event Cluster := do
  return { cluster with processes := ← cluster.processes.mapM f }

/-- Whether the processes look again at all they may hand over in this tick. -/
def rescanDue (cluster : Cluster) : Bool :=
  cluster.rescanInterval > 0 ∧ cluster.tick % cluster.rescanInterval = 0

/-- What all enforcers ask for, each request with the worker it comes from. -/
def requests (cluster : Cluster) : List (WorkerName × AclRequest) :=
  cluster.processes.flatMap fun p => p.requests.map (p.name, ·)

/-! ## Applying requests -/

/-- Gives an entity to the worker that a request names, and tells every process the new access list
and the two workers concerned their authority. -/
def handOver (cluster : Cluster) (state : EntityState) (request : AclRequest) : Cluster :=
  let acl := request.accessList
  let entities := cluster.entities.insert request.entity { state with owner := request.owner, acl }
  { cluster with entities }
    |>.broadcast (.updateComponent request.entity (.accessList acl))
    |>.send state.owner (.changeAuthority request.entity .accessList .notAuthoritative)
    |>.send request.owner (.changeAuthority request.entity .accessList .authoritative)

/-- Applies a request.  It is rejected unless it comes from the owner of the entity and names a worker
of the cluster, and it changes nothing if that worker is the owner already. -/
def applyRequest (cluster : Cluster) (issuer : WorkerName) (request : AclRequest) :
    Logged Event (WriteOutcome × Cluster) :=
  let reject (event : Event) : Logged Event (WriteOutcome × Cluster) := do
    Logged.report [event]
    return (.rejected, cluster)
  match cluster.entities[request.entity]? with
  | none => reject (.unknownEntity request.entity)
  | some state =>
    if state.owner ≠ issuer then reject (.foreignWrite request.entity issuer state.owner)
    else if !cluster.processes.any (·.name = request.owner) then
      reject (.unknownTarget request.entity request.owner)
    else if state.owner = request.owner then return (.unchanged, cluster)
    else do
      Logged.report [.handedOver cluster.tick request.entity state.owner request.owner]
      return (.handover, cluster.handOver state request)

/-- Applies the requests of a tick in order. -/
def applyRequests (cluster : Cluster) (requests : List (WorkerName × AclRequest)) :
    Logged Event (TickSummary × Cluster) :=
  requests.foldlM (fun (summary, cluster) (issuer, request) => do
    let (outcome, cluster) ← cluster.applyRequest issuer request
    return (summary.count outcome, cluster)) (⟨requests.length, 0, 0⟩, cluster)

/-! ## The tick -/

/-- Lets all enforcers decide and applies what they ask for. -/
def coordinate (cluster : Cluster) : Logged Event (TickSummary × Cluster) := do
  let requests := cluster.requests
  let cluster ← cluster.eachProcess Process.coordinate
  let (summary, cluster) ← cluster.applyRequests requests
  if summary.requests > 0 then Logged.report [.coordinated cluster.tick summary]
  return (summary, { cluster with handovers := cluster.handovers + summary.handovers })

/-- Everything in a tick that comes before the enforcers: the scripts, delivery, and in some ticks
another look at all that a process may hand over, in the order that `visit` gives. -/
def prepare (visit : WorkerName → List EntityId → List EntityId) (cluster : Cluster) :
    Logged Event Cluster := do
  let cluster ← cluster.playScripts
  let cluster ← cluster.eachProcess Process.deliver
  if cluster.rescanDue then cluster.eachProcess fun p => p.rescan (visit p.name)
  else return cluster

/-- One tick, in which each process looks again at its entities in the order that `visit` gives. -/
def advanceVisiting (visit : WorkerName → List EntityId → List EntityId) (cluster : Cluster) :
    Logged Event (TickSummary × Cluster) := do
  let cluster ← cluster.prepare visit
  if cluster.loadBalancing then cluster.coordinate else return (.quiet, cluster)

/-- One tick, in which each process looks again at its entities in ascending order. -/
def advance (cluster : Cluster) : Logged Event (TickSummary × Cluster) :=
  cluster.advanceVisiting fun _ entities => entities

end Cluster

end Handover
