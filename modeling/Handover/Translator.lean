import Handover.Mapping
import Handover.Log.Record

/-! # Translators

Each worker process has one translator.  It keeps the latest accepted mapping and learns from it, once
and for all, which virtual worker the process is; the balancing strategy is told at that moment.  A
refused update changes nothing.
-/

namespace Handover

/-- The balancing strategy's end in a process: it remembers every virtual worker it was told the
process is, oldest first. -/
structure Strategy where
  told : List VirtualWorkerId
deriving DecidableEq, Inhabited

namespace Strategy

def tell (strategy : Strategy) (id : VirtualWorkerId) : Strategy := ⟨strategy.told ++ [id]⟩

/-- The virtual worker it was told last; `unassigned` before it was told any. -/
def current (strategy : Strategy) : VirtualWorkerId := strategy.told.getLast?.getD .unassigned

end Strategy

structure Translator where
  worker : WorkerName
  /-- Whom to tell the process's virtual worker; some processes have nobody to tell. -/
  strategy : Option Strategy
  /-- The process's virtual worker, `unassigned` until an accepted update names the process. -/
  known : VirtualWorkerId
  map : WorkerMap
deriving DecidableEq

namespace Translator

def start (worker : WorkerName) (strategy : Option Strategy) : Translator :=
  ⟨worker, strategy, .unassigned, .empty⟩

/-- Ready means that the process knows its virtual worker. -/
def isReady (translator : Translator) : Bool := translator.known.isValid

def resolve (translator : Translator) (update : MappingUpdate) :
    Except MappingRejection MappingUpdate.Resolution :=
  update.resolve translator.worker translator.known

/-- Takes over what an accepted update says. -/
def accept (translator : Translator) (resolution : MappingUpdate.Resolution) : Translator :=
  let translator := { translator with map := resolution.map }
  match resolution.discovered with
  | none => translator
  | some id =>
    { translator with known := id, strategy := translator.strategy.map (·.tell id) }

def apply (translator : Translator) (update : MappingUpdate) : Translator :=
  match translator.resolve update with
  | .ok resolution => translator.accept resolution
  | .error _ => translator

/-! ## Queries -/

def worker? (translator : Translator) (id : VirtualWorkerId) : Option WorkerName :=
  translator.map.worker? id

def workerEntity? (translator : Translator) (id : VirtualWorkerId) : Option EntityId :=
  translator.map.workerEntity? id

/-! ## Reports -/

inductive Event where
  | received (known : VirtualWorkerId) (entries : Nat)
  | refused (rejection : MappingRejection)
  | assigned (entry : MappingEntry)
  | becameReady (worker : WorkerName) (id : VirtualWorkerId)
deriving DecidableEq

/-- What the translator reports when the update is delivered. -/
def events (translator : Translator) (update : MappingUpdate) : List Event :=
  .received translator.known update.entries.length ::
    match translator.resolve update with
    | .error rejection => [.refused rejection]
    | .ok resolution =>
      resolution.map.toList.map .assigned ++
        resolution.discovered.toList.map (.becameReady translator.worker)

namespace Event

/-- A missing row is expected right after a restart and only warned of; other refusals are errors. -/
def record : Event → Log.Record
  | received known entries =>
    ⟨.debug, target, "Applying virtual worker mapping",
      [("local_virtual_worker", toString known), ("entries", toString entries)]⟩
  | refused rejection =>
    match rejection with
    | .missing .. =>
      ⟨.warn, target, "Ignoring virtual worker mapping, will wait for a valid version",
        [("rejection", rejection.message)]⟩
    | .reassigned .. | .reservedEntry .. =>
      ⟨.error, target, "Rejected virtual worker mapping", [("rejection", rejection.message)]⟩
  | assigned entry =>
    ⟨.info, target, "Translator assignment",
      [("virtual_worker", toString entry.virtualWorker), ("physical_worker", toString entry.worker),
        ("worker_entity", toString entry.workerEntity)]⟩
  | becameReady worker id =>
    ⟨.info, target, "Virtual worker translator is now ready for load balancing",
      [("worker", toString worker), ("virtual_worker", toString id)]⟩
where
  target : String := "latch_authority::translator"

end Event

end Translator

end Handover
