import Handover.Proofs.Cluster.Requests

/-! # What the owners have queued

Every process has a queue of its own, but for an entity only that of its owner matters: no other
process may hand it over.  For each phase of a tick a lemma says whether the owner has an entity queued
after it, given whether it had before (`OwnerQueued`).

Scripts and a rescan queue an entity at its owner, and the enforcers empty all queues when they decide.
Of the messages of a handover only those to the new owner queue the entity, so after the requests of a
tick the owner has queued exactly what has just come to it (`Admissible.applyAll_of_mem`,
`applyAll_of_others`).
-/

namespace Handover.Cluster

/-- The owner of the entity will have it queued, or not, once it has taken its messages. -/
def OwnerQueued (cluster : Cluster) (entity : EntityId) (queued : Bool) : Prop :=
  ∀ p ∈ cluster.processes, cluster.owner? entity = some p.name →
    p.agenda.pending.contains entity = queued

variable {settings : Settings} {cluster : Cluster} {order : VisitOrder} {n : Nat}
  {entity : EntityId} {queued : Bool}

/-! ## The scripts -/

theorem getElem?_setIntent (cluster : Cluster) (change : IntentChange) (entity : EntityId) :
    (cluster.setIntent change).value.entities[entity]? =
      cluster.entities[entity]?.map fun state =>
        if change.entity = entity then { state with intent := change.intent } else state := by
  cases present : cluster.entities[change.entity]? with
  | none =>
    rw [value_setIntent_of_absent present]
    by_cases here : change.entity = entity
    · rw [← here, present]
      rfl
    · simp only [if_neg here, Option.map_id']
  | some state =>
    rw [value_setIntent present]
    by_cases here : change.entity = entity
    · rw [← here, present]
      simp
    · simp [Std.ExtTreeMap.getElem?_insert, here]

theorem getElem?_setIntents (cluster : Cluster) (changes : List IntentChange) (entity : EntityId) :
    (cluster.setIntents changes).entities[entity]? =
      cluster.entities[entity]?.map fun state =>
        { state with
          intent := (changes.filter (·.entity = entity)).foldl (fun _ change => change.intent)
            state.intent } := by
  induction changes generalizing cluster with
  | nil => exact Option.map_id'.symm
  | cons change changes ih =>
    rw [setIntents_cons, ih, getElem?_setIntent, Option.map_map]
    refine congrArg (cluster.entities[entity]?.map ·) (funext fun state => ?_)
    by_cases here : change.entity = entity
    · rw [List.filter_cons_of_pos (by simpa using here), Function.comp_apply, if_pos here]
      rfl
    · rw [List.filter_cons_of_neg (by simpa using here), Function.comp_apply, if_neg here]

theorem owner?_setIntent (cluster : Cluster) (change : IntentChange) (entity : EntityId) :
    (cluster.setIntent change).value.owner? entity = cluster.owner? entity := by
  rw [owner?, getElem?_setIntent, Option.map_map, owner?]
  refine congrArg (cluster.entities[entity]?.map ·) (funext fun state => ?_)
  rw [Function.comp_apply]
  split <;> rfl

/-- A change of intent queues its entity, at whoever owns it. -/
theorem OwnerQueued.setIntent (before : cluster.OwnerQueued entity queued) (change : IntentChange) :
    (cluster.setIntent change).value.OwnerQueued entity
      (decide (change.entity = entity) || queued) := by
  intro q member owner
  rw [owner?_setIntent] at owner
  cases present : cluster.entities[change.entity]? with
  | none =>
    rw [value_setIntent_of_absent present] at member
    -- a change of an unknown entity does nothing, and nobody owns that entity
    have other : change.entity ≠ entity := by
      rintro rfl
      rw [owner?, present] at owner
      cases owner
    rw [decide_eq_false other, Bool.false_or]
    exact before q member owner
  | some state =>
    rw [value_setIntent present] at member
    obtain ⟨p, told, rfl⟩ := List.mem_map.mp member
    rw [Process.contains_agenda_sendAll, before p told owner]
    exact WorkerOp.queuedAfter_setIntent change.entity entity change.intent queued

theorem OwnerQueued.setIntents (before : cluster.OwnerQueued entity queued)
    (changes : List IntentChange) :
    (cluster.setIntents changes).OwnerQueued entity
      (changes.any (·.entity = entity) || queued) := by
  induction changes generalizing cluster queued with
  | nil => exact before
  | cons change changes ih =>
    rw [setIntents_cons, List.any_cons, Bool.or_comm (decide _), Bool.or_assoc]
    exact ih (before.setIntent change)

/-- Restarts leave the queues of the others alone. -/
theorem OwnerQueued.restartAll (before : cluster.OwnerQueued entity queued)
    {restarts : List WorkerRestart}
    (spared : ∀ owner, cluster.owner? entity = some owner → owner ∉ restarts.map (·.worker)) :
    (cluster.restartAll restarts).OwnerQueued entity queued := by
  rw [restartAll_eq]
  intro q member owner
  obtain ⟨p, told, rfl⟩ := List.mem_map.mp member
  have named : (if p.name ∈ restarts.map (·.worker) then cluster.replacement p.name else p).name =
      p.name := by split <;> rfl
  rw [named] at owner
  rw [if_neg (spared p.name owner)]
  exact before p told owner

/-! ## Delivery, rescan and decision -/

theorem OwnerQueued.delivered (before : cluster.OwnerQueued entity queued) :
    cluster.delivered.OwnerQueued entity queued := by
  rw [Cluster.delivered, value_eachProcess]
  intro q member owner
  obtain ⟨p, told, rfl⟩ := List.mem_map.mp member
  rw [Process.value_deliver] at owner ⊢
  exact before p told owner

/-- A rescan queues every entity at its owner, in whatever order the owner goes through them. -/
theorem ownerQueued_rescanned {scenario : Scenario} (consistent : cluster.Consistent scenario)
    (taken : ∀ p ∈ cluster.processes, p.inbox = []) (order : VisitOrder) (entity : EntityId) :
    (cluster.rescanned order).OwnerQueued entity true := by
  rw [rescanned, value_eachProcess]
  intro q member owner
  obtain ⟨p, told, rfl⟩ := List.mem_map.mp member
  obtain ⟨state, present, owned⟩ := Option.map_eq_some_iff.mp owner
  have named : (p.rescan (order.arrange p.name)).value.name = p.name := by
    rw [Process.value_rescan]
  have empty : (p.rescan (order.arrange p.name)).value.inbox = [] := by
    rw [Process.value_rescan]
    exact taken p told
  have mirrors := consistent.view_mirrors told (taken p told)
  -- the owner may hand the entity over, so the rescan meets it
  have held : entity ∈ p.held := by
    rw [Process.held, List.mem_filter, mirrors.entityIds_eq, Std.ExtTreeMap.mem_keys]
    refine ⟨Std.ExtTreeMap.mem_iff_isSome_getElem?.mpr ?_, ?_⟩
    · show cluster.entities[entity]?.isSome
      exact present ▸ rfl
    · rw [mirrors.mayHandOver_eq present, owned, named, decide_eq_true rfl]
  rw [Process.contains_agenda, empty, Process.contains_rescan,
    decide_eq_true ((order.perm p.name p.held).mem_iff.mpr held)]
  rfl

theorem ownerQueued_decided (order : VisitOrder) (entity : EntityId) :
    (cluster.prepared order).decided.OwnerQueued entity false := by
  rw [decided, value_eachProcess]
  intro q member _
  obtain ⟨p, decides, rfl⟩ := List.mem_map.mp member
  rw [Process.value_coordinate, Process.contains_agenda]
  show WorkerOp.queuedAfterAll p.inbox entity _ = false
  rw [inbox_of_mem_prepared decides]
  exact p.enforcer.pending.contains_drain entity

/-! ## Requests -/

theorem OwnerQueued.applyRequest_of_ne (before : cluster.OwnerQueued entity queued)
    (issuer : WorkerName) {request : AclRequest} (other : request.entity ≠ entity) :
    (cluster.applyRequest issuer request).value.2.OwnerQueued entity queued := by
  intro q member owner
  rw [owner?, getElem?_applyRequest_of_ne cluster issuer other] at owner
  rcases cluster.value_applyRequest issuer request with same | ⟨state, _, _, _, applied⟩
  · rw [same] at member
    exact before q member owner
  · rw [applied] at member
    split at member
    · exact before q member owner
    · rw [handOver_eq] at member
      obtain ⟨p, told, rfl⟩ := List.mem_map.mp member
      rw [Process.contains_agenda_sendAll, WorkerOp.queuedAfterAll_of_ne fun op sent same =>
        other ((View.entity_of_mem_handoverMessages sent).symm.trans same)]
      exact before p told owner

/-- A handover queues its entity at the new owner. -/
theorem ownerQueued_handOver (cluster : Cluster) (state : EntityState) (request : AclRequest) :
    (cluster.handOver state request).OwnerQueued request.entity true := by
  intro q member owner
  rw [handOver_eq] at member owner
  obtain ⟨p, told, rfl⟩ := List.mem_map.mp member
  have gains : request.owner = p.name := by simpa [owner?] using owner
  rw [Process.contains_agenda_sendAll, ← gains]
  exact WorkerOp.queuedAfter_handoverMessages_gain _ _ _ _ _

/-- Requests for other entities leave an entity and its queue alone. -/
theorem applyAll_of_others {requests : List (WorkerName × AclRequest)}
    (others : ∀ row ∈ requests, row.2.entity ≠ entity) (before : cluster.OwnerQueued entity queued) :
    (cluster.applyAll requests).entities[entity]? = cluster.entities[entity]? ∧
      (cluster.applyAll requests).OwnerQueued entity queued := by
  induction requests generalizing cluster with
  | nil => exact ⟨rfl, before⟩
  | cons row requests ih =>
    obtain ⟨other, others⟩ := List.forall_mem_cons.mp others
    rw [applyAll_cons, ← getElem?_applyRequest_of_ne cluster row.1 other]
    exact ih others (before.applyRequest_of_ne row.1 other)

/-- Among admissible requests, the one for an entity takes it where it wants it; the entity is queued
there exactly if it was not there before. -/
theorem Admissible.applyAll_of_mem {requests : List (WorkerName × AclRequest)}
    (admissible : cluster.Admissible requests) {row : WorkerName × AclRequest}
    (member : row ∈ requests) {state : EntityState}
    (present : cluster.entities[row.2.entity]? = some state)
    (idle : cluster.OwnerQueued row.2.entity false) :
    (∃ acl, (cluster.applyAll requests).entities[row.2.entity]? =
        some { state with owner := row.2.owner, acl }) ∧
      (cluster.applyAll requests).OwnerQueued row.2.entity
        (decide (row.2.owner ≠ state.owner)) := by
  induction requests generalizing cluster with
  | nil => cases member
  | cons first requests ih =>
    rw [applyAll_cons]
    have distinct := List.nodup_cons.mp admissible.distinct
    rcases List.mem_cons.mp member with rfl | later
    · -- the request itself: the ones after it are for other entities
      have others : ∀ other ∈ requests, other.2.entity ≠ row.2.entity := fun other here same =>
        distinct.1 (List.mem_map.mpr ⟨other, here, same⟩)
      obtain ⟨state', present', owned, applied⟩ := admissible.exists_state
      obtain rfl := Option.some.inj (present.symm.trans present')
      rw [applied]
      split
      case isTrue stays =>
        obtain ⟨same, still⟩ := applyAll_of_others others idle
        refine ⟨⟨state.acl, ?_⟩, ?_⟩
        · rw [same, present, ← stays]
        · rw [decide_eq_false fun moved => moved stays.symm]
          exact still
      case isFalse moved =>
        obtain ⟨same, still⟩ := applyAll_of_others others
          (cluster.ownerQueued_handOver state row.2)
        refine ⟨⟨row.2.accessList, ?_⟩, ?_⟩
        · rw [same, handOver_eq]
          exact Std.ExtTreeMap.getElem?_insert_self
        · rw [decide_eq_true (Ne.symm moved)]
          exact still
    · -- a request before it is for another entity
      have other : first.2.entity ≠ row.2.entity := fun same =>
        distinct.1 (List.mem_map.mpr ⟨row, later, same.symm⟩)
      refine ih admissible.tail later ?_ (idle.applyRequest_of_ne first.1 other)
      rw [getElem?_applyRequest_of_ne cluster first.1 other, present]

end Handover.Cluster
