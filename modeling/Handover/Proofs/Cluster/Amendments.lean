import Handover.Proofs.Cluster.Phases

namespace Handover.Cluster

/-! ## Amendments -/

/-- What is done to one entity: its new state, and what each worker is told of it.  Changes of intent and
requests that are granted are of this kind. -/
structure Amendment (entity : EntityId) where
  state : EntityState
  mail : WorkerName → List WorkerOp
  about : ∀ worker, ∀ op ∈ mail worker, op.entity = entity

def amend (cluster : Cluster) {entity : EntityId} : Option (Amendment entity) → Cluster
  | none => cluster
  | some amendment =>
    { cluster with
      entities := cluster.entities.insert entity amendment.state
      processes := cluster.processes.map fun p => p.sendAll (amendment.mail p.name) }

theorem getElem?_amend_of_ne (cluster : Cluster) {e entity : EntityId} (apart : e ≠ entity)
    (amendment : Option (Amendment e)) :
    (cluster.amend amendment).entities[entity]? = cluster.entities[entity]? := by
  cases amendment with
  | none => rfl
  | some amendment =>
    simp only [amend, Std.ExtTreeMap.getElem?_insert, Std.LawfulEqCmp.compare_eq_iff_eq, apart,
      if_false]

theorem names_amend (cluster : Cluster) {entity : EntityId}
    (amendment : Option (Amendment entity)) :
    (cluster.amend amendment).processes.map (·.name) = cluster.processes.map (·.name) := by
  cases amendment with
  | none => rfl
  | some amendment =>
    rw [amend, List.map_map]
    rfl

/-- To a process an amendment is a message, or nothing. -/
theorem exists_sendAll_of_mem_amend {cluster : Cluster} {entity : EntityId}
    {amendment : Option (Amendment entity)} {q : Process}
    (member : q ∈ (cluster.amend amendment).processes) :
    ∃ p ∈ cluster.processes, ∃ ops, q = p.sendAll ops := by
  cases amendment with
  | none => exact ⟨q, member, [], by simp [Process.sendAll]⟩
  | some amendment =>
    obtain ⟨p, before, rfl⟩ := List.mem_map.mp member
    exact ⟨p, before, _, rfl⟩

/-! ## Changes of intent and requests amend one entity -/

/-- What a change of intent amends, given the state of its entity. -/
def intentAmendment (change : IntentChange) (state : Option EntityState) :
    Option (Amendment change.entity) :=
  state.map fun state => {
    state := { state with intent := change.intent }
    mail _ := [.updateComponent change.entity (.intent change.intent)]
    about := by simp [WorkerOp.entity] }

theorem value_setIntent_eq_amend (cluster : Cluster) (change : IntentChange) :
    (cluster.setIntent change).value =
      cluster.amend (intentAmendment change cluster.entities[change.entity]?) := by
  cases present : cluster.entities[change.entity]? with
  | none =>
    rw [value_setIntent_of_absent present]
    rfl
  | some state =>
    rw [value_setIntent present]
    rfl

/-- What becomes of a request, and what it amends. -/
def judgement (cluster : Cluster) (issuer : WorkerName) (request : AclRequest) :
    WriteOutcome × Option (Amendment request.entity) :=
  match cluster.entities[request.entity]? with
  | none => (.rejected, none)
  | some state =>
    if state.owner = issuer ∧ request.owner ∈ cluster.processes.map (·.name) then
      if state.owner = request.owner then (.unchanged, none)
      else
        (.handover, some {
          state := { state with owner := request.owner, acl := request.accessList }
          mail := View.handoverMessages request.entity request.accessList state.owner request.owner
          about := fun _ _ sent => View.entity_of_mem_handoverMessages sent })
    else (.rejected, none)

theorem value_applyRequest_eq_amend (cluster : Cluster) (issuer : WorkerName)
    (request : AclRequest) :
    (cluster.applyRequest issuer request).value =
      ((cluster.judgement issuer request).1,
        cluster.amend (cluster.judgement issuer request).2) := by
  rw [judgement]
  cases present : cluster.entities[request.entity]? with
  | none =>
    rw [applyRequest, present]
    rfl
  | some state =>
    by_cases granted : state.owner = issuer ∧ request.owner ∈ cluster.processes.map (·.name)
    · simp only [granted, and_self, if_true]
      obtain ⟨rfl, known⟩ := granted
      rw [value_applyRequest_of_owner present known, handOver_eq]
      split <;> rfl
    · simp only [granted, if_false]
      -- whatever was not granted has been rejected
      rcases cluster.value_applyRequest issuer request with
        rejected | ⟨state', present', owned, known, _⟩
      · exact rejected
      · rw [present] at present'
        obtain rfl := Option.some.inj present'
        exact absurd ⟨owned, known⟩ granted

theorem judgement_amend_of_ne (cluster : Cluster) {e : EntityId} (amendment : Option (Amendment e))
    (issuer : WorkerName) {request : AclRequest} (apart : e ≠ request.entity) :
    (cluster.amend amendment).judgement issuer request = cluster.judgement issuer request := by
  rw [judgement, judgement, getElem?_amend_of_ne cluster apart, names_amend]

end Handover.Cluster
