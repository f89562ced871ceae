import Handover.Enforcer
import Handover.Log.Logged

/-! # What a simulation reports

The events of the cluster itself and those of the translators, views and enforcers of its processes,
with the log record of each.
-/

namespace Handover

inductive WriteOutcome where
  | handover
  /-- The entity has the wanted owner already. -/
  | unchanged
  | rejected
deriving DecidableEq

structure TickSummary where
  requests : Nat
  handovers : Nat
  rejected : Nat
deriving DecidableEq

namespace TickSummary

def quiet : TickSummary := ⟨0, 0, 0⟩

def count (summary : TickSummary) : WriteOutcome → TickSummary
  | .handover => { summary with handovers := summary.handovers + 1 }
  | .rejected => { summary with rejected := summary.rejected + 1 }
  | .unchanged => summary

instance : ToString TickSummary where
  toString s :=
    s!"TickSummary \x7b requests: {s.requests}, handovers: {s.handovers}, " ++
      s!"rejected: {s.rejected} \x7d"

end TickSummary

namespace Cluster

inductive Event where
  | translator (event : Translator.Event)
  | view (event : View.Event)
  | enforcer (event : Enforcer.Event)
  /-- An entity of the scenario is meant for a virtual worker that nobody serves. -/
  | strayIntent (entity : EntityId) (intent : VirtualWorkerId)
  | booted (workers entities : Nat) (loadBalancing : Bool)
  | intentMoved (tick : Nat) (entity : EntityId) (intent : VirtualWorkerId)
  | restarted (tick : Nat) (worker : WorkerName)
  | unknownEntity (entity : EntityId)
  | foreignWrite (entity : EntityId) (issuer owner : WorkerName)
  | unknownTarget (entity : EntityId) (target : WorkerName)
  | handedOver (tick : Nat) (entity : EntityId) (previous next : WorkerName)
  | coordinated (tick : Nat) (summary : TickSummary)

def Event.record : Event → Log.Record
  | translator event => event.record
  | view event => event.record
  | enforcer event => event.record
  | strayIntent entity intent =>
    ⟨.warn, target, "Entity intends an unknown virtual worker",
      [("entity", toString entity), ("intent", toString intent)]⟩
  | booted workers entities loadBalancing =>
    ⟨.info, target, "Cluster booted",
      [("workers", toString workers), ("entities", toString entities),
        ("load_balancing", toString loadBalancing)]⟩
  | intentMoved tick entity intent =>
    ⟨.info, target, "Load balancer moved entity",
      [("tick", toString tick), ("entity", toString entity), ("intent", toString intent)]⟩
  | restarted tick worker =>
    ⟨.warn, target, "Worker restarted", [("tick", toString tick), ("worker", toString worker)]⟩
  | unknownEntity entity =>
    ⟨.warn, target, "ACL write for unknown entity", [("entity", toString entity)]⟩
  | foreignWrite entity issuer owner =>
    ⟨.warn, target, "ACL write from a worker without ACL authority",
      [("entity", toString entity), ("issuer", toString issuer), ("owner", toString owner)]⟩
  | unknownTarget entity name =>
    ⟨.warn, target, "ACL write names unknown worker",
      [("entity", toString entity), ("target", toString name)]⟩
  | handedOver tick entity previous next =>
    ⟨.info, target, "Authority handed over",
      [("tick", toString tick), ("entity", toString entity), ("from", toString previous),
        ("to", toString next)]⟩
  | coordinated tick summary =>
    ⟨.debug, target, "Coordination tick",
      [("tick", toString tick), ("summary", toString summary)]⟩
where
  target : String := "latch::cluster"

end Cluster

end Handover
