import Handover.Translator
import Handover.View
import Std.Data.ExtTreeSet

/-! # Handover requests

For one entity a worker decides whether its access list has to change: the entity's intent must
name a virtual worker, that virtual worker must be mapped to a process, the deciding worker must hold
full authority over the access list, and the entity's components must be known.  The first of these
that fails is the reason to skip the entity; if all hold, the answer is a request to let the mapped
process write all the entity's components.

The decision reads the view and the translator and changes neither.
-/

namespace Handover

/-- A request to hand an entity's components to a worker. -/
structure AclRequest where
  entity : EntityId
  owner : WorkerName
  components : Std.ExtTreeSet ComponentId
deriving DecidableEq

def AclRequest.accessList (request : AclRequest) : AccessList :=
  .granting request.owner request.components.toList

/-- Why an entity yields no request.  None of these is final: when the entity is queued again, it is
decided about anew. -/
inductive SkipReason where
  | noIntent
  | unresolved (worker : VirtualWorkerId)
  | notAuthoritative
  | noPresence
deriving DecidableEq

def SkipReason.message : SkipReason → String
  | noIntent => "no authority intent"
  | unresolved worker => s!"virtual worker {worker} has no known physical worker"
  | notAuthoritative => "not authoritative over the entity ACL"
  | noPresence => "no component presence"

/-- The process that a ready translator maps the virtual worker to. -/
def Translator.resolveWorker? (translator : Translator) (id : VirtualWorkerId) :
    Option WorkerName :=
  if translator.isReady then (translator.worker? id).filter (·.isValid) else none

/-- Decides about one entity, checking intent, worker, authority and presence in this order. -/
def evaluate (entity : EntityId) (view : View) (translator : Translator) :
    Except SkipReason AclRequest :=
  match (view.intent? entity).filter (·.isValid) with
  | none => .error .noIntent
  | some intent =>
    match translator.resolveWorker? intent with
    | none => .error (.unresolved intent)
    | some owner =>
      if view.mayHandOver entity then
        match view.presence? entity with
        | none => .error .noPresence
        | some components => .ok ⟨entity, owner, .ofList components⟩
      else .error .notAuthoritative

end Handover
