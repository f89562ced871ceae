import Handover.Identifier

/-! # Mappings of virtual workers to processes

A *mapping update* is a whole table of which process serves which virtual worker.  It is taken or
refused as a whole, and what the receiver already knows about itself decides: an update that gives it
another partition than the one it serves, or none at all, is refused, and so is one that uses a
reserved value.  A taken update becomes a *worker map*; where it lists a virtual worker twice, the
last row counts.
-/

namespace Handover

/-- One row of a mapping update: the process that serves a virtual worker, and the entity that
stands for the process. -/
structure MappingEntry where
  virtualWorker : VirtualWorkerId
  worker : WorkerName
  workerEntity : EntityId
deriving DecidableEq, Inhabited

/-- Whether the row avoids the reserved virtual worker and the reserved name. -/
def MappingEntry.isValid (entry : MappingEntry) : Bool :=
  entry.virtualWorker.isValid && entry.worker.isValid

/-! ## Updates -/

structure MappingUpdate where
  entries : List MappingEntry
deriving DecidableEq, Inhabited

namespace MappingUpdate

/-- Virtual workers 1, 2, … for the listed processes, in order. -/
def ofWorkers (workers : List (WorkerName × EntityId)) : MappingUpdate :=
  ⟨workers.mapIdx fun i (worker, entity) => ⟨⟨.ofNat (i + 1)⟩, worker, entity⟩⟩

/-- The update with one more row at its end. -/
def push (update : MappingUpdate) (entry : MappingEntry) : MappingUpdate :=
  ⟨update.entries ++ [entry]⟩

def without (update : MappingUpdate) (worker : WorkerName) : MappingUpdate :=
  ⟨update.entries.filter (·.worker ≠ worker)⟩

/-- The virtual worker that the first row of the process gives it. -/
def virtualWorkerOf (update : MappingUpdate) (worker : WorkerName) : Option VirtualWorkerId :=
  (update.entries.find? (·.worker = worker)).map (·.virtualWorker)

/-- The process that the first row of the virtual worker names. -/
def workerOf (update : MappingUpdate) (id : VirtualWorkerId) : Option WorkerName :=
  (update.entries.find? (·.virtualWorker = id)).map (·.worker)

end MappingUpdate

/-! ## Worker maps -/

/-- Which process serves each virtual worker, and which entity stands for it. -/
structure WorkerMap where
  rows : Std.ExtTreeMap VirtualWorkerId (WorkerName × EntityId)
deriving DecidableEq

namespace WorkerMap

def empty : WorkerMap := ⟨∅⟩

instance : Inhabited WorkerMap := ⟨empty⟩

/-- Adds a row, replacing the one the virtual worker had. -/
def insert (map : WorkerMap) (entry : MappingEntry) : WorkerMap :=
  ⟨map.rows.insert entry.virtualWorker (entry.worker, entry.workerEntity)⟩

/-- The map of all the rows, the last of each virtual worker counting. -/
def ofEntries (entries : List MappingEntry) : WorkerMap :=
  entries.foldl insert empty

def worker? (map : WorkerMap) (id : VirtualWorkerId) : Option WorkerName :=
  map.rows[id]?.map (·.1)

def workerEntity? (map : WorkerMap) (id : VirtualWorkerId) : Option EntityId :=
  map.rows[id]?.map (·.2)

def size (map : WorkerMap) : Nat := map.rows.size

/-- The rows by ascending virtual worker. -/
def toList (map : WorkerMap) : List MappingEntry :=
  map.rows.toList.map fun (id, worker, entity) => ⟨id, worker, entity⟩

end WorkerMap

/-! ## Accepting an update -/

inductive MappingRejection where
  /-- It gives the receiver another virtual worker than the one the receiver already is. -/
  | reassigned (worker : WorkerName) (existing received : VirtualWorkerId)
  /-- It does not mention the receiver, which already knows its virtual worker. -/
  | missing (worker : WorkerName) (existing : VirtualWorkerId)
  /-- One of its rows uses a reserved value. -/
  | reservedEntry (virtualWorker : VirtualWorkerId) (worker : WorkerName)
deriving DecidableEq

def MappingRejection.message : MappingRejection → String
  | reassigned worker existing received =>
    s!"mapping assigns worker '{worker}' virtual worker {received}, but it already owns {existing}"
  | missing worker existing =>
    s!"mapping has no entry for worker '{worker}' (owner of virtual worker {existing}); " ++
      "likely stale after a restart"
  | reservedEntry virtualWorker worker =>
    s!"mapping entry ({virtualWorker}, '{worker}') uses a reserved sentinel"

namespace MappingUpdate

/-- Checks an update against what the receiver knows: its name, and its virtual worker if that is
not `unassigned`. -/
def validate (update : MappingUpdate) (worker : WorkerName) (known : VirtualWorkerId) :
    Except MappingRejection Unit :=
  match update.entries.find? (!·.isValid) with
  | some entry => .error (.reservedEntry entry.virtualWorker entry.worker)
  | none =>
    if known.isValid then
      match update.virtualWorkerOf worker with
      | some received =>
        if received = known then .ok () else .error (.reassigned worker known received)
      | none => .error (.missing worker known)
    else .ok ()

/-- What an accepted update says: the map to use from now on, and the receiver's virtual worker if
this update is the first to tell it. -/
structure Resolution where
  map : WorkerMap
  discovered : Option VirtualWorkerId
deriving DecidableEq

def resolve (update : MappingUpdate) (worker : WorkerName) (known : VirtualWorkerId) :
    Except MappingRejection Resolution := do
  update.validate worker known
  return {
    map := .ofEntries update.entries
    discovered := if known.isValid then none else update.virtualWorkerOf worker }

end MappingUpdate

end Handover
