import Handover.Identifier

/-! # Components

What is replicated about an entity.  Three components steer the handover of authority: the *intent*
names the virtual worker the balancer wants as owner, the *presence* lists the components attached to
the entity, and the *access list* says which worker may write which component.  Every other component
is known by its number only.

A worker holds some *authority* over each component it sees; only full authority permits writes.
-/

namespace Handover

namespace ComponentId

def accessList : ComponentId := 50

/-- The virtual worker that is meant to own an entity. -/
def intent : ComponentId := 9980

def presence : ComponentId := 9983

/-- Whether the component takes part in load balancing. -/
def steersHandover (component : ComponentId) : Bool :=
  component = accessList ∨ component = intent ∨ component = presence

end ComponentId

/-! ## Authority -/

/-- The authority a worker holds over one component of one entity.  A loss that is only announced
leaves the worker authoritative as far as the holder is concerned, but it permits no writes. -/
inductive Authority where
  | notAuthoritative
  | authoritative
  | lossImminent
deriving DecidableEq

instance : Inhabited Authority := ⟨.notAuthoritative⟩

def Authority.permitsWrites (authority : Authority) : Bool := authority = .authoritative

/-! ## Access lists -/

/-- Which worker may write each component of an entity. -/
structure AccessList where
  writers : Std.ExtTreeMap ComponentId WorkerName
deriving DecidableEq

namespace AccessList

def empty : AccessList := ⟨∅⟩

instance : Inhabited AccessList := ⟨empty⟩

/-- The worker that may write the component, if any may. -/
def writerOf (acl : AccessList) (component : ComponentId) : Option WorkerName :=
  acl.writers[component]?

/-- The list that lets one worker write each of the components. -/
def granting (worker : WorkerName) (components : List ComponentId) : AccessList :=
  ⟨.ofList (components.map (·, worker))⟩

end AccessList

/-! ## Component values -/

/-- The value of a component.  Components that do not steer the handover carry their number only;
nothing keeps such a bare number from being one of the three steering ones. -/
inductive ComponentData where
  | intent (worker : VirtualWorkerId)
  | presence (components : List ComponentId)
  | accessList (acl : AccessList)
  | other (component : ComponentId)
deriving DecidableEq

instance : Inhabited ComponentData := ⟨.other 0⟩

namespace ComponentData

def component : ComponentData → ComponentId
  | .intent _ => .intent
  | .presence _ => .presence
  | .accessList _ => .accessList
  | .other component => component

def intent? : ComponentData → Option VirtualWorkerId
  | .intent worker => some worker
  | _ => none

def presence? : ComponentData → Option (List ComponentId)
  | .presence components => some components
  | _ => none

def accessList? : ComponentData → Option AccessList
  | .accessList acl => some acl
  | _ => none

end ComponentData

end Handover
