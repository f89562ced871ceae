import Handover.Component

/-! # Replication messages

What the replication layer tells a worker about the entities it sees.  The same stream of messages
feeds the worker's component view, which stores the values, and its enforcer, which decides what has
to be looked at again.
-/

namespace Handover

inductive WorkerOp where
  /-- A component became visible, with its first value. -/
  | addComponent (entity : EntityId) (data : ComponentData)
  /-- A visible component has a new value. -/
  | updateComponent (entity : EntityId) (data : ComponentData)
  /-- A component is no longer visible. -/
  | removeComponent (entity : EntityId) (component : ComponentId)
  /-- The receiver's authority over a component changed. -/
  | changeAuthority (entity : EntityId) (component : ComponentId) (authority : Authority)
  /-- The whole entity is no longer visible. -/
  | removeEntity (entity : EntityId)
deriving DecidableEq

namespace WorkerOp

def entity : WorkerOp → EntityId
  | addComponent e _ | updateComponent e _ | removeComponent e _ | changeAuthority e _ _
  | removeEntity e => e

/-- The component that the message is about; a removed entity concerns no single one. -/
def component? : WorkerOp → Option ComponentId
  | addComponent _ data | updateComponent _ data => some data.component
  | removeComponent _ c | changeAuthority _ c _ => some c
  | removeEntity _ => none

end WorkerOp

end Handover
