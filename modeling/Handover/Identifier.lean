import Std.Data.ExtTreeMap

/-! # Identifiers

Four kinds of name occur in a cluster.  An *entity* is a replicated object, a *component* is one of
its parts, a *virtual worker* is a partition of the load that the balancer hands out, and a *worker
name* is the process that currently serves a partition.  Entities, virtual workers and worker names
each reserve one value meaning "nobody"; it never occurs in an accepted mapping.

Entity and virtual worker ids are ordered by their numbers and worker names by their code points, so
that tables keyed by them are listed in one fixed order.
-/

namespace Handover

/-- Number of a component in the replication schema. -/
abbrev ComponentId := UInt32

/-- A partition of the load, as the balancer numbers it.  It outlives the process that serves it. -/
structure VirtualWorkerId where
  val : UInt32
deriving DecidableEq

structure EntityId where
  val : Int64
deriving DecidableEq

/-- The name of a running worker process. -/
structure WorkerName where
  text : String
deriving DecidableEq

/-! ## Reserved values -/

/-- The id that no partition has. -/
def VirtualWorkerId.unassigned : VirtualWorkerId := ⟨0⟩

/-- The id that no entity has. -/
def EntityId.reserved : EntityId := ⟨0⟩

/-- The name that no worker has. -/
def WorkerName.nobody : WorkerName := ⟨""⟩

instance : Inhabited VirtualWorkerId := ⟨.unassigned⟩
instance : Inhabited EntityId := ⟨.reserved⟩
instance : Inhabited WorkerName := ⟨.nobody⟩

def VirtualWorkerId.isValid (id : VirtualWorkerId) : Bool := id ≠ .unassigned

def EntityId.isValid (id : EntityId) : Bool := id ≠ .reserved

def WorkerName.isValid (name : WorkerName) : Bool := name ≠ .nobody

/-! ## Order -/

instance : Ord VirtualWorkerId := ⟨compareOn VirtualWorkerId.val⟩
instance : Ord EntityId := ⟨compareOn EntityId.val⟩
instance : Ord WorkerName := ⟨compareOn WorkerName.text⟩

instance : Std.TransOrd VirtualWorkerId := inferInstanceAs (Std.TransCmp (compareOn VirtualWorkerId.val))
instance : Std.TransOrd EntityId := inferInstanceAs (Std.TransCmp (compareOn EntityId.val))

instance : Std.LawfulEqOrd VirtualWorkerId where
  eq_of_compare {a b} h := by
    cases a; cases b
    exact congrArg VirtualWorkerId.mk (Std.LawfulEqOrd.eq_of_compare h)

instance : Std.LawfulEqOrd EntityId where
  eq_of_compare {a b} h := by
    cases a; cases b
    exact congrArg EntityId.mk (Std.LawfulEqOrd.eq_of_compare h)

/-- Names in the order of their code points, which is also the order of their UTF-8 bytes. -/
def WorkerName.sort (names : List WorkerName) : List WorkerName :=
  names.mergeSort fun a b => (compare a b).isLE

/-! ## Text -/

instance : ToString VirtualWorkerId := ⟨fun id => toString id.val.toNat⟩
instance : ToString EntityId := ⟨fun id => toString id.val.toInt⟩
instance : ToString WorkerName := ⟨WorkerName.text⟩

end Handover
