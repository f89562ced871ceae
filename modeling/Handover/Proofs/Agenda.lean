import Handover.Enforcer
import Handover.Proofs.Mirror

namespace Handover

/-! ## Membership after each operation of the queue -/

namespace PendingQueue

theorem contains_push (queue : PendingQueue) (e entity : EntityId) :
    (queue.push e).2.contains entity = (decide (e = entity) || queue.contains entity) := by
  rw [Bool.eq_iff_iff, ← mem_toList, toList_push, Bool.or_eq_true, decide_eq_true_iff]
  split
  case isTrue queued =>
    rw [mem_toList]
    constructor
    · exact Or.inr
    · rintro (rfl | member)
      · exact queued
      · exact member
  case isFalse => rw [List.mem_append, mem_toList, List.mem_singleton, or_comm, eq_comm]

theorem contains_remove (queue : PendingQueue) (e entity : EntityId) :
    (queue.remove e).2.contains entity = (!decide (e = entity) && queue.contains entity) := by
  rw [Bool.eq_iff_iff, ← mem_toList, toList_remove, List.mem_filter, mem_toList]
  by_cases same : e = entity
  · simp [same]
  · simp [same, Ne.symm same]

@[simp] theorem contains_drain (queue : PendingQueue) (entity : EntityId) :
    queue.drain.2.contains entity = false := by
  rw [Bool.eq_false_iff, ne_eq, ← mem_toList, toList_drain]
  exact List.not_mem_nil

end PendingQueue

/-! ## Membership after a message -/

/-- Whether an entity is queued after a trigger, given whether it was before. -/
def Trigger.queuedAfter (trigger : Trigger) (entity : EntityId) (queued : Bool) : Bool :=
  match trigger with
  | .queue e => decide (e = entity) || queued
  | .drop e => !decide (e = entity) && queued

def WorkerOp.queuedAfter (op : WorkerOp) (entity : EntityId) (queued : Bool) : Bool :=
  match Trigger.ofOp op with
  | some trigger => trigger.queuedAfter entity queued
  | none => queued

/-- Whether an entity is queued after messages, given whether it was before. -/
def WorkerOp.queuedAfterAll (ops : List WorkerOp) (entity : EntityId) (queued : Bool) : Bool :=
  ops.foldl (fun queued op => op.queuedAfter entity queued) queued

namespace Trigger

def entity : Trigger → EntityId
  | queue e | drop e => e

theorem queuedAfter_of_ne {trigger : Trigger} {entity : EntityId} (other : trigger.entity ≠ entity)
    (queued : Bool) : trigger.queuedAfter entity queued = queued := by
  cases trigger with
  | queue e =>
    have apart : e ≠ entity := other
    simp [queuedAfter, apart]
  | drop e =>
    have apart : e ≠ entity := other
    simp [queuedAfter, apart]

/-- A message triggers nothing but for the entity it is about. -/
theorem ofOp_eq_some {op : WorkerOp} {trigger : Trigger} (triggers : ofOp op = some trigger) :
    trigger = .queue op.entity ∨ trigger = .drop op.entity := by
  cases op with
  | addComponent e data =>
    rw [ofOp, Option.ite_none_right_eq_some] at triggers
    exact .inl (Option.some.inj triggers.2).symm
  | updateComponent e data =>
    rw [ofOp, Option.ite_none_right_eq_some] at triggers
    exact .inl (Option.some.inj triggers.2).symm
  | removeComponent e component =>
    rw [ofOp, Option.ite_none_right_eq_some] at triggers
    exact .inr (Option.some.inj triggers.2).symm
  | changeAuthority e component authority =>
    rw [ofOp, Option.ite_none_right_eq_some] at triggers
    cases authority with
    | authoritative => exact .inl (Option.some.inj triggers.2).symm
    | notAuthoritative => exact .inr (Option.some.inj triggers.2).symm
    | lossImminent => cases triggers.2
  | removeEntity e => exact .inr (Option.some.inj triggers).symm

theorem entity_of_ofOp {op : WorkerOp} {trigger : Trigger} (triggers : ofOp op = some trigger) :
    trigger.entity = op.entity := by
  rcases ofOp_eq_some triggers with rfl | rfl <;> rfl

end Trigger

namespace Enforcer

def handleAll (enforcer : Enforcer) (ops : List WorkerOp) : Enforcer := ops.foldl handle enforcer

theorem contains_act (enforcer : Enforcer) (trigger : Trigger) (entity : EntityId) :
    (enforcer.act trigger).pending.contains entity =
      trigger.queuedAfter entity (enforcer.pending.contains entity) := by
  cases trigger with
  | queue e => exact enforcer.pending.contains_push e entity
  | drop e => exact enforcer.pending.contains_remove e entity

theorem contains_handle (enforcer : Enforcer) (op : WorkerOp) (entity : EntityId) :
    (enforcer.handle op).pending.contains entity =
      op.queuedAfter entity (enforcer.pending.contains entity) := by
  rw [handle, WorkerOp.queuedAfter]
  cases Trigger.ofOp op with
  | none => rfl
  | some trigger => exact enforcer.contains_act trigger entity

theorem contains_handleAll (enforcer : Enforcer) (ops : List WorkerOp) (entity : EntityId) :
    (enforcer.handleAll ops).pending.contains entity =
      WorkerOp.queuedAfterAll ops entity (enforcer.pending.contains entity) := by
  induction ops generalizing enforcer with
  | nil => rfl
  | cons op ops ih =>
    exact (ih (enforcer.handle op)).trans (by rw [contains_handle]; rfl)

end Enforcer

/-! ## The messages of the cluster -/

namespace WorkerOp

theorem queuedAfterAll_append (ops ops' : List WorkerOp) (entity : EntityId) (queued : Bool) :
    queuedAfterAll (ops ++ ops') entity queued =
      queuedAfterAll ops' entity (queuedAfterAll ops entity queued) := by
  simp [queuedAfterAll, List.foldl_append]

/-- A message decides only about the entity it is about. -/
theorem queuedAfter_of_ne {op : WorkerOp} {entity : EntityId} (other : op.entity ≠ entity)
    (queued : Bool) : op.queuedAfter entity queued = queued := by
  rw [queuedAfter]
  cases triggers : Trigger.ofOp op with
  | none => rfl
  | some trigger =>
    rw [← Trigger.entity_of_ofOp triggers] at other
    exact Trigger.queuedAfter_of_ne other queued

theorem queuedAfterAll_of_ne {ops : List WorkerOp} {entity : EntityId}
    (others : ∀ op ∈ ops, op.entity ≠ entity) (queued : Bool) :
    queuedAfterAll ops entity queued = queued := by
  induction ops generalizing queued with
  | nil => rfl
  | cons op ops ih =>
    rw [List.forall_mem_cons] at others
    exact (ih others.2 _).trans (queuedAfter_of_ne others.1 queued)

theorem queuedAfter_setIntent (e entity : EntityId) (intent : VirtualWorkerId) (queued : Bool) :
    (updateComponent e (.intent intent)).queuedAfter entity queued =
      (decide (e = entity) || queued) := by
  simp [queuedAfter, Trigger.ofOp, ComponentData.component, Trigger.queuedAfter]

/-- The new owner of an entity has it queued after the messages of the handover. -/
theorem queuedAfter_handoverMessages_gain (entity : EntityId) (acl : AccessList)
    (previous next : WorkerName) (queued : Bool) :
    queuedAfterAll (View.handoverMessages entity acl previous next next) entity queued = true := by
  rw [View.handoverMessages, if_pos rfl, ← List.cons_append, queuedAfterAll_append]
  -- the last message grants authority and decides, whatever the ones before it did
  simp [queuedAfterAll, queuedAfter, Trigger.ofOp, Trigger.ofAuthority, Trigger.queuedAfter]

theorem queuedAfterAll_snapshot_self (entity : EntityId) (state : EntityState)
    (worker : WorkerName) (queued : Bool) :
    queuedAfterAll (state.snapshot entity worker) entity queued = true := by
  rw [EntityState.snapshot, queuedAfterAll_append]
  split <;> simp [queuedAfterAll, queuedAfter, Trigger.ofOp, Trigger.ofAuthority,
    Trigger.queuedAfter, ComponentData.component]

theorem queuedAfterAll_snapshots {rows : List (EntityId × EntityState)} (worker : WorkerName)
    (entity : EntityId) (queued : Bool) :
    queuedAfterAll (rows.flatMap fun (e, state) => state.snapshot e worker) entity queued =
      (decide (entity ∈ rows.map (·.1)) || queued) := by
  induction rows generalizing queued with
  | nil => simp [queuedAfterAll]
  | cons row rows ih =>
    rw [List.flatMap_cons, queuedAfterAll_append, ih]
    by_cases here : entity = row.1
    · -- its own snapshot queues it, and no later one drops it
      subst here
      rw [queuedAfterAll_snapshot_self]
      simp
    · rw [queuedAfterAll_of_ne fun op sent same =>
        here (same.symm.trans (View.entity_of_mem_snapshot sent)), List.map_cons]
      simp only [List.mem_cons, here, false_or]

/-- A process that starts with the snapshot of all entities has them all queued. -/
theorem queuedAfterAll_snapshot (entities : Std.ExtTreeMap EntityId EntityState)
    (worker : WorkerName) (entity : EntityId) (queued : Bool) :
    queuedAfterAll (Cluster.snapshot entities worker) entity queued =
      (entities.contains entity || queued) := by
  rw [Cluster.snapshot, queuedAfterAll_snapshots, Std.ExtTreeMap.map_fst_toList_eq_keys]
  simp [Std.ExtTreeMap.mem_keys, ← Std.ExtTreeMap.contains_iff_mem]

end WorkerOp

end Handover
