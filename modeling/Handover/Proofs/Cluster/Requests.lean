import Handover.Proofs.Cluster.Stages

namespace Handover.Cluster

/-! ## Applying admissible requests -/

/-- The requests are for different entities; each comes from the owner of its entity and names a
process of the cluster.  Applying one then leaves the others what they were (`tail`), so each is judged
as if it were the first. -/
structure Admissible (cluster : Cluster) (requests : List (WorkerName × AclRequest)) : Prop where
  distinct : (requests.map (·.2.entity)).Nodup
  issued : ∀ row ∈ requests, cluster.owner? row.2.entity = some row.1
  known : ∀ row ∈ requests, row.2.owner ∈ cluster.processes.map (·.name)

variable {cluster : Cluster} {requests : List (WorkerName × AclRequest)}

theorem getElem?_applyRequest_of_ne (cluster : Cluster) (issuer : WorkerName)
    {request : AclRequest} {entity : EntityId} (other : request.entity ≠ entity) :
    (cluster.applyRequest issuer request).value.2.entities[entity]? =
      cluster.entities[entity]? := by
  rw [value_applyRequest_eq_amend]
  exact cluster.getElem?_amend_of_ne other _

theorem names_applyRequest (cluster : Cluster) (issuer : WorkerName) (request : AclRequest) :
    (cluster.applyRequest issuer request).value.2.processes.map (·.name) =
      cluster.processes.map (·.name) := by
  rw [value_applyRequest_eq_amend]
  exact cluster.names_amend _

namespace Admissible

/-- Applying the first of admissible requests leaves the others admissible. -/
theorem tail {row : WorkerName × AclRequest} (admissible : cluster.Admissible (row :: requests)) :
    (cluster.applyRequest row.1 row.2).value.2.Admissible requests := by
  have distinct := List.nodup_cons.mp admissible.distinct
  refine ⟨distinct.2, fun later member => ?_, fun later member => ?_⟩
  · have other : row.2.entity ≠ later.2.entity := fun same =>
      distinct.1 (List.mem_map.mpr ⟨later, member, same.symm⟩)
    rw [owner?, getElem?_applyRequest_of_ne cluster row.1 other]
    exact admissible.issued later (List.mem_cons_of_mem _ member)
  · rw [names_applyRequest]
    exact admissible.known later (List.mem_cons_of_mem _ member)

theorem applyAll {earlier later : List (WorkerName × AclRequest)}
    (admissible : cluster.Admissible (earlier ++ later)) :
    (cluster.applyAll earlier).Admissible later := by
  induction earlier generalizing cluster with
  | nil => exact admissible
  | cons row earlier ih => exact ih admissible.tail

/-- The first of admissible requests finds its entity, and finds it owned by its issuer. -/
theorem exists_state {row : WorkerName × AclRequest}
    (admissible : cluster.Admissible (row :: requests)) :
    ∃ state, cluster.entities[row.2.entity]? = some state ∧ state.owner = row.1 ∧
      (cluster.applyRequest row.1 row.2).value =
        if state.owner = row.2.owner then (.unchanged, cluster)
        else (.handover, cluster.handOver state row.2) := by
  obtain ⟨state, present, owner⟩ :=
    Option.map_eq_some_iff.mp (admissible.issued row List.mem_cons_self)
  refine ⟨state, present, owner, ?_⟩
  rw [← owner]
  exact value_applyRequest_of_owner present (admissible.known row List.mem_cons_self)

/-- What becomes of admissible requests can be told before the first of them is applied. -/
theorem outcomes_eq (admissible : cluster.Admissible requests) :
    cluster.outcomes requests = requests.map fun row =>
      if row.1 = row.2.owner then .unchanged else .handover := by
  induction requests generalizing cluster with
  | nil => rfl
  | cons row requests ih =>
    obtain ⟨state, _, owner, applied⟩ := admissible.exists_state
    rw [outcomes_cons, ih admissible.tail, List.map_cons, applied, owner]
    congr 1
    split <;> rfl

theorem count_rejected (admissible : cluster.Admissible requests) :
    (cluster.outcomes requests).count .rejected = 0 := by
  rw [admissible.outcomes_eq, List.count_eq_zero]
  intro member
  obtain ⟨row, _, outcome⟩ := List.mem_map.mp member
  split at outcome <;> cases outcome

end Admissible

/-! ## The requests of a tick -/

variable {settings : Settings} {order : VisitOrder} {n : Nat}

theorem mem_requests {row : WorkerName × AclRequest} :
    row ∈ cluster.requests ↔ ∃ p ∈ cluster.processes, p.name = row.1 ∧ row.2 ∈ p.requests := by
  rw [requests, List.mem_flatMap]
  refine exists_congr fun p => and_congr_right fun _ => ?_
  rw [List.mem_map]
  constructor
  · rintro ⟨request, member, rfl⟩
    exact ⟨rfl, member⟩
  · rintro ⟨named, member⟩
    exact ⟨row.2, member, by rw [named]⟩

/-- The enforcers of all processes together ask at most once for each entity: those of one process by
way of its queue, those of different processes because only one of them owns the entity. -/
theorem nodup_requests (distinct : (cluster.processes.map (·.name)).Nodup)
    (mirrored : ∀ p ∈ cluster.processes, p.view.Mirrors cluster.entities p.name) :
    (cluster.requests.map (·.2.entity)).Nodup := by
  have owned {p : Process} (decides : p ∈ cluster.processes) {request : AclRequest}
      (asked : request ∈ p.requests) : cluster.owner? request.entity = some p.name := by
    obtain ⟨state, _, present, owner, _⟩ := (Process.evaluate_eq_ok_iff (mirrored p decides) _ _ _).mp
      (Process.mem_requests.mp asked).2
    rw [owner?, present, Option.map_some, owner]
  rw [List.Nodup, List.pairwise_map, requests, List.pairwise_flatMap]
  constructor
  · intro p _
    rw [List.pairwise_map]
    exact List.pairwise_map.mp p.nodup_requests
  · refine (List.pairwise_map.mp distinct).imp_of_mem fun {p q} decides decides' differ => ?_
    intro row asked row' asked' same
    obtain ⟨request, member, rfl⟩ := List.mem_map.mp asked
    obtain ⟨request', member', rfl⟩ := List.mem_map.mp asked'
    -- both own the same entity, so they are the same process
    have owner := owned decides member
    rw [same, owned decides' member'] at owner
    exact differ (Option.some.inj owner).symm

section

variable (sound : settings.scenario.Sound) (few : settings.scenario.workers.length < UInt32.size)

include sound few

theorem Deciding.admissible (deciding : Deciding settings n cluster) :
    cluster.decided.Admissible cluster.requests := by
  have distinct : (cluster.processes.map (·.name)).Nodup := by
    rw [deciding.consistent.names]
    exact sound.workers_nodup
  refine ⟨nodup_requests distinct deciding.mirrored, fun row member => ?_, fun row member => ?_⟩
  · obtain ⟨p, decides, named, asked⟩ := mem_requests.mp member
    obtain ⟨_, _, state, _, present, owned, _⟩ :=
      (deciding.mem_requests_iff sound few decides row.2).mp asked
    show (cluster.entities[row.2.entity]?).map (·.owner) = some row.1
    rw [present, Option.map_some, owned, named]
  · obtain ⟨p, decides, named, asked⟩ := mem_requests.mp member
    obtain ⟨_, _, state, target, _, _, served, same⟩ :=
      (deciding.mem_requests_iff sound few decides row.2).mp asked
    rw [deciding.consistent.decided.names, same]
    exact Scenario.mem_workers_of_worker? served

end

/-- In every tick the requests of all processes are for different entities.  When one of them is
applied, after all requests before it, its entity exists and is still owned by the process that asks,
and the worker it names is one of the scenario; so it is not rejected, and no request ever is. -/
theorem requests_admissible {settings : Settings} {cluster : Cluster}
    (accepted : new settings = .ok cluster) (few : settings.scenario.workers.length < UInt32.size)
    (orders : Nat → VisitOrder) (n : Nat) :
    let before := cluster.evolve orders n
    let requests := before.collected (orders n)
    (requests.map (·.2.entity)).Nodup ∧
      (∀ earlier issuer request later, requests = earlier ++ (issuer, request) :: later →
        let current := ((before.prepared (orders n)).decided.applyRequests earlier).value.2
        ∃ state, current.entities[request.entity]? = some state ∧ state.owner = issuer ∧
          request.owner ∈ settings.scenario.workers ∧
          (current.applyRequest issuer request).value.1 ≠ .rejected) ∧
      (before.tickIn (orders n)).1.rejected = 0 := by
  obtain ⟨sound, rfl⟩ := (new_eq_ok_iff settings cluster).mp accepted
  intro before requests
  have deciding := (resting_evolve sound few orders n).prepared sound few (orders n)
  have admissible := deciding.admissible sound few
  cases balanced : before.loadBalancing with
  | false =>
    -- without load balancing nobody asks
    have nothing : requests = [] := if_neg (Bool.eq_false_iff.mp balanced)
    rw [nothing, tickIn_of_off balanced]
    exact ⟨.nil, fun earlier issuer request later cut => by simp at cut, rfl⟩
  | true =>
    have asked : requests = (before.prepared (orders n)).requests := if_pos balanced
    rw [asked, tickIn_of_on balanced, value_coordinate]
    refine ⟨admissible.distinct, fun earlier issuer request later cut => ?_,
      admissible.count_rejected⟩
    -- what is left after the earlier requests is still admissible, and this one comes first
    rw [cut] at admissible
    have names := deciding.consistent.decided.names
    have known := admissible.known (issuer, request) (by simp)
    obtain ⟨state, present, owned, applied⟩ := admissible.applyAll.exists_state
    rw [value_applyRequests]
    refine ⟨state, present, owned, names ▸ known, ?_⟩
    intro rejected
    rw [applied] at rejected
    split at rejected <;> cases rejected

/-- In tick 40 of the standard scenario the first worker asks for its entity 1 to go to the third, and
the second for its entity 2 to go to the first.  When the second request is applied, entity 2 is still
with the worker that asks. -/
theorem requests_admissible_standard :
    let components := Std.ExtTreeSet.ofList [(100 : ComponentId), 101, 102]
    let first : WorkerName × AclRequest :=
      (⟨"ServerWorker1"⟩, ⟨⟨1⟩, ⟨"ServerWorker3"⟩, components⟩)
    let second : WorkerName × AclRequest :=
      (⟨"ServerWorker2"⟩, ⟨⟨2⟩, ⟨"ServerWorker1"⟩, components⟩)
    let orders : Nat → VisitOrder := fun _ => .ascending
    let before := (initial .standard).evolve orders 39
    new .standard = .ok (initial .standard) ∧ Scenario.standard.workers.length < UInt32.size ∧
      before.collected (orders 39) = [first, second] ∧
      (∃ state, ((before.prepared (orders 39)).decided.applyRequests
          [first]).value.2.entities[second.2.entity]? = some state ∧ state.owner = second.1) ∧
      (before.tickIn (orders 39)).1.rejected = 0 := by
  have few : Scenario.standard.workers.length < UInt32.size := by decide
  intro components first second orders before
  have asked : before.collected (orders 39) = [first, second] := by decide +kernel
  have general := requests_admissible new_standard few orders 39
  -- with the requests known, how the cluster came to its state no longer matters
  rw [show (initial .standard).evolve orders 39 = before from rfl] at general
  clear_value before
  obtain ⟨_, admissible, none⟩ := general
  obtain ⟨state, present, owned, _⟩ := admissible [first] second.1 second.2 [] asked
  exact ⟨new_standard, few, asked, ⟨state, present, owned⟩, none⟩

end Handover.Cluster
