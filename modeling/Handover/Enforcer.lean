import Handover.AclRequest
import Handover.PendingQueue

/-! # Enforcers

Each worker's enforcer collects the entities that need another look and, once per coordination tick,
decides about all of them.  Messages only change the queue: a new intent or presence and gained
authority over the access list queue the entity, losing any of them drops it.  However many messages
arrive about an entity between two passes, a pass decides about it at most once.
-/

namespace Handover

/-! ## Counters -/

structure SkipCounts where
  noIntent : Nat
  unresolved : Nat
  notAuthoritative : Nat
  noPresence : Nat
deriving DecidableEq

namespace SkipCounts

def zero : SkipCounts := ⟨0, 0, 0, 0⟩

def record (counts : SkipCounts) : SkipReason → SkipCounts
  | .noIntent => { counts with noIntent := counts.noIntent + 1 }
  | .unresolved _ => { counts with unresolved := counts.unresolved + 1 }
  | .notAuthoritative => { counts with notAuthoritative := counts.notAuthoritative + 1 }
  | .noPresence => { counts with noPresence := counts.noPresence + 1 }

def total (counts : SkipCounts) : Nat :=
  counts.noIntent + counts.unresolved + counts.notAuthoritative + counts.noPresence

end SkipCounts

/-- What an enforcer has done so far. -/
structure EnforcerCounts where
  /-- Entities that entered the queue. -/
  queued : Nat
  /-- Entities that a message took out of the queue. -/
  dropped : Nat
  passes : Nat
  requested : Nat
  skipped : SkipCounts
deriving DecidableEq

namespace EnforcerCounts

def zero : EnforcerCounts := ⟨0, 0, 0, 0, .zero⟩

instance : Inhabited EnforcerCounts := ⟨zero⟩

end EnforcerCounts

/-! ## Triggers -/

/-- What an event means for the queue. -/
inductive Trigger where
  | queue (entity : EntityId)
  | drop (entity : EntityId)
deriving DecidableEq

namespace Trigger

/-- Gained authority queues the entity and lost authority drops it.  An announced loss does neither:
authority is still held. -/
def ofAuthority (entity : EntityId) : Authority → Option Trigger
  | .authoritative => some (queue entity)
  | .notAuthoritative => some (drop entity)
  | .lossImminent => none

/-- What a message means for the queue.  Messages about components that do not steer the handover
mean nothing, and neither does a new access list. -/
def ofOp : WorkerOp → Option Trigger
  | .addComponent entity data | .updateComponent entity data =>
    if data.component = .intent ∨ data.component = .presence then some (queue entity) else none
  | .removeComponent entity component =>
    if component.steersHandover then some (drop entity) else none
  | .changeAuthority entity component authority =>
    if component = .accessList then ofAuthority entity authority else none
  | .removeEntity entity => some (drop entity)

end Trigger

/-! ## Enforcers -/

structure Enforcer where
  worker : WorkerName
  pending : PendingQueue
  counts : EnforcerCounts

/-- What a pass made of one queued entity. -/
structure Decision where
  entity : EntityId
  result : Except SkipReason AclRequest

def Decision.request? (decision : Decision) : Option AclRequest := decision.result.toOption

def Decision.skipped? (decision : Decision) : Option SkipReason :=
  match decision.result with
  | .error reason => some reason
  | .ok _ => none

namespace Enforcer

def start (worker : WorkerName) : Enforcer := ⟨worker, .empty, .zero⟩

/-- Queues an entity, or drops it from the queue, counting only what changes the queue. -/
def act (enforcer : Enforcer) : Trigger → Enforcer
  | .queue entity =>
    let (new, pending) := enforcer.pending.push entity
    let counts := enforcer.counts
    { enforcer with pending, counts := { counts with queued := counts.queued + new.toNat } }
  | .drop entity =>
    let (found, pending) := enforcer.pending.remove entity
    let counts := enforcer.counts
    { enforcer with pending, counts := { counts with dropped := counts.dropped + found.toNat } }

def handle (enforcer : Enforcer) (op : WorkerOp) : Enforcer :=
  match Trigger.ofOp op with
  | some trigger => enforcer.act trigger
  | none => enforcer

/-- What a pass over the queue decides, in queue order. -/
def decisions (enforcer : Enforcer) (view : View) (translator : Translator) : List Decision :=
  enforcer.pending.toList.map fun entity => ⟨entity, evaluate entity view translator⟩

/-- The requests of a pass, in queue order. -/
def requests (enforcer : Enforcer) (view : View) (translator : Translator) : List AclRequest :=
  (enforcer.decisions view translator).filterMap Decision.request?

/-- The enforcer after a pass: nothing is queued any more, whatever was decided. -/
def process (enforcer : Enforcer) (view : View) (translator : Translator) : Enforcer :=
  let decisions := enforcer.decisions view translator
  let counts := enforcer.counts
  { enforcer with
    pending := enforcer.pending.drain.2
    counts := { counts with
      passes := counts.passes + 1
      requested := counts.requested + (decisions.filterMap Decision.request?).length
      skipped := (decisions.filterMap Decision.skipped?).foldl .record counts.skipped } }

/-! ## Reports -/

inductive Event where
  | queued (worker : WorkerName) (entity : EntityId)
  | dropped (worker : WorkerName) (entity : EntityId)
  | requested (worker : WorkerName) (request : AclRequest)
  | skipped (worker : WorkerName) (entity : EntityId) (reason : SkipReason)

/-- What is reported when a trigger is acted on: only what changes the queue. -/
def actEvents (enforcer : Enforcer) : Trigger → List Event
  | .queue entity =>
    if enforcer.pending.contains entity then [] else [.queued enforcer.worker entity]
  | .drop entity =>
    if enforcer.pending.contains entity then [.dropped enforcer.worker entity] else []

def handleEvents (enforcer : Enforcer) (op : WorkerOp) : List Event :=
  match Trigger.ofOp op with
  | some trigger => enforcer.actEvents trigger
  | none => []

/-- What a pass reports: each decision, in queue order. -/
def processEvents (enforcer : Enforcer) (view : View) (translator : Translator) : List Event :=
  (enforcer.decisions view translator).map fun decision =>
    match decision.result with
    | .ok request => .requested enforcer.worker request
    | .error reason => .skipped enforcer.worker decision.entity reason

def Event.record : Event → Log.Record
  | queued worker entity => ⟨.trace, target, "Queued ACL assignment", subject worker entity⟩
  | dropped worker entity =>
    ⟨.trace, target, "Dropped queued ACL assignment", subject worker entity⟩
  | requested worker request =>
    ⟨.debug, target, "Requesting ACL write authority change",
      subject worker request.entity ++
        [("owner", toString request.owner), ("components", toString request.components.size)]⟩
  | skipped worker entity reason =>
    ⟨.debug, target, "Skipping ACL assignment",
      subject worker entity ++ [("reason", reason.message)]⟩
where
  target : String := "latch_authority::enforcer"
  subject (worker : WorkerName) (entity : EntityId) : List (String × String) :=
    [("worker", toString worker), ("entity", toString entity)]

end Enforcer

end Handover
