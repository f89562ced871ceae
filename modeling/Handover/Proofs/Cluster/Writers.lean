import Handover.Proofs.Cluster.Requests

/-! # Access lists follow ownership

The access list of an entity is written when the entity is set up and at every handover, and the second
time it is not made from the entity but from a request: from what the old owner saw of the presence of
the entity when it decided, kept as a set.  What such requests say is true when they are computed, as
the views of the processes mirror the entities then, and it stays true while they are applied, as
components never change (`Truthful`).
-/

namespace Handover

/-! ## Granting components -/

theorem AccessList.writerOf_granting (worker : WorkerName) (components : List ComponentId)
    (component : ComponentId) :
    (granting worker components).writerOf component =
      if component ∈ components then some worker else none := by
  -- a component may be listed more than once, so the induction is over any table before the list
  have general (writers : Std.ExtTreeMap ComponentId WorkerName) :
      (writers.insertMany (components.map (·, worker)))[component]? =
        if component ∈ components then some worker else writers[component]? := by
    induction components generalizing writers with
    | nil => simp
    | cons first components ih =>
      rw [List.map_cons, Std.ExtTreeMap.insertMany_cons, ih, Std.ExtTreeMap.getElem?_insert]
      by_cases here : first = component
      · simp [here]
      · simp [here, Ne.symm here]
  rw [writerOf, granting, Std.ExtTreeMap.ofList_eq_insertMany_empty, general,
    Std.ExtTreeMap.getElem?_empty]

/-- The list lets the worker write the given components, and lets nobody write anything else. -/
def AccessList.Grants (acl : AccessList) (worker : WorkerName) (components : List ComponentId) :
    Prop :=
  ∀ component, acl.writerOf component = if component ∈ components then some worker else none

/-- The order and the repetitions of the components, which a request does not keep, do not matter. -/
theorem AclRequest.grants_accessList {request : AclRequest} {components : List ComponentId}
    (same : request.components = .ofList components) :
    request.accessList.Grants request.owner components := by
  intro component
  rw [accessList, AccessList.writerOf_granting, same]
  simp only [Std.ExtTreeSet.mem_toList, Std.ExtTreeSet.mem_ofList, List.contains_iff_mem]

namespace Cluster

variable {scenario : Scenario} {cluster : Cluster}

/-! ## What requests say about components -/

/-- What the requests say about the components of their entities is what the scenario says. -/
def Truthful (scenario : Scenario) (requests : List (WorkerName × AclRequest)) : Prop :=
  ∀ row ∈ requests, ∃ seed, scenario.entities.find? (·.id = row.2.entity) = some seed ∧
    row.2.components = .ofList seed.components

theorem Consistent.exists_seed (consistent : cluster.Consistent scenario) {entity : EntityId}
    {state : EntityState} (present : cluster.entities[entity]? = some state) :
    ∃ seed, scenario.entities.find? (·.id = entity) = some seed ∧
      state.components = seed.components := by
  have listed := consistent.listed entity
  rw [present, Option.map_some] at listed
  obtain ⟨seed, found, same⟩ := Option.map_eq_some_iff.mp listed.symm
  exact ⟨seed, found, same.symm⟩

theorem Consistent.truthful_requests (consistent : cluster.Consistent scenario)
    (taken : ∀ p ∈ cluster.processes, p.inbox = []) : Truthful scenario cluster.requests := by
  intro row member
  obtain ⟨p, decides, _, asked⟩ := mem_requests.mp member
  -- a process that has taken its messages sees of each entity the components that it has
  have mirrors := consistent.view_mirrors decides (taken p decides)
  obtain ⟨state, target, present, _, _, _, made⟩ :=
    (Process.evaluate_eq_ok_iff mirrors p.translator row.2.entity row.2).mp
      (Process.mem_requests.mp asked).2
  obtain ⟨seed, found, same⟩ := consistent.exists_seed present
  exact ⟨seed, found, by rw [made, same]⟩

/-! ## The invariant -/

/-- Every access list lets the owner of its entity write the components of the entity, and lets nobody
write anything else. -/
def Guarded (cluster : Cluster) : Prop :=
  ∀ (entity : EntityId) (state : EntityState), cluster.entities[entity]? = some state →
    state.acl.Grants state.owner state.components

theorem guarded_initial {settings : Settings} (sound : settings.scenario.Sound) :
    (initial settings).Guarded := by
  intro entity state present
  rw [getElem?_initial sound, Option.map_eq_some_iff] at present
  obtain ⟨seed, _, rfl⟩ := present
  exact AccessList.writerOf_granting _ seed.components

namespace Guarded

theorem amend (guarded : cluster.Guarded) {entity : EntityId}
    {amendment : Option (Amendment entity)}
    (grants : ∀ amended ∈ amendment,
      amended.state.acl.Grants amended.state.owner amended.state.components) :
    (cluster.amend amendment).Guarded := by
  cases amendment with
  | none => exact guarded
  | some amended =>
    intro e state present
    rw [Cluster.amend, Std.ExtTreeMap.getElem?_insert] at present
    split at present
    · obtain rfl := Option.some.inj present
      exact grants amended rfl
    · exact guarded e state present

theorem setIntent (guarded : cluster.Guarded) (change : IntentChange) :
    (cluster.setIntent change).value.Guarded := by
  rw [value_setIntent_eq_amend]
  refine guarded.amend fun amended made => ?_
  obtain ⟨state, present, rfl⟩ := Option.map_eq_some_iff.mp made
  exact guarded change.entity state present

theorem setIntents (guarded : cluster.Guarded) (changes : List IntentChange) :
    (cluster.setIntents changes).Guarded :=
  List.foldlRecOn changes _ (motive := Guarded) guarded fun _ kept change _ => kept.setIntent change

theorem prepared (guarded : cluster.Guarded) (order : VisitOrder) :
    (cluster.prepared order).Guarded := by
  have counted : cluster.nextTick.Guarded := guarded
  intro entity state present
  rw [entities_prepared] at present
  exact counted.setIntents _ entity state present

/-- A handover replaces the access list by one that the components of the request give. -/
theorem applyRequest (guarded : cluster.Guarded) (consistent : cluster.Consistent scenario)
    (issuer : WorkerName) {request : AclRequest} {seed : EntitySeed}
    (found : scenario.entities.find? (·.id = request.entity) = some seed)
    (same : request.components = .ofList seed.components) :
    (cluster.applyRequest issuer request).value.2.Guarded := by
  rw [value_applyRequest_eq_amend]
  refine guarded.amend fun amended made => ?_
  rw [judgement] at made
  split at made
  case h_1 => cases made
  case h_2 state present =>
    -- the components of the entity are still those that the request was made for
    obtain ⟨seed', found', components⟩ := consistent.exists_seed present
    obtain rfl := Option.some.inj (found.symm.trans found')
    split at made
    case isFalse => cases made
    case isTrue =>
      split at made
      case isTrue => cases made
      case isFalse =>
        obtain rfl := Option.some.inj made
        rw [← components] at same
        exact request.grants_accessList same

theorem applyAll (guarded : cluster.Guarded) (consistent : cluster.Consistent scenario)
    {requests : List (WorkerName × AclRequest)} (truthful : Truthful scenario requests) :
    (cluster.applyAll requests).Guarded := by
  induction requests generalizing cluster with
  | nil => exact guarded
  | cons row requests ih =>
    obtain ⟨⟨seed, found, same⟩, later⟩ := List.forall_mem_cons.mp truthful
    exact ih (guarded.applyRequest consistent row.1 found same)
      (consistent.applyRequest row.1 row.2) later

theorem tickIn (guarded : cluster.Guarded) (consistent : cluster.Consistent scenario)
    (order : VisitOrder) : (cluster.tickIn order).2.Guarded := by
  have before := guarded.prepared order
  have ready := consistent.prepared order
  cases balanced : cluster.loadBalancing with
  | false =>
    rw [tickIn_of_off balanced]
    exact before
  | true =>
    rw [tickIn_of_on balanced, value_coordinate]
    have decides : (cluster.prepared order).decided.Guarded := before
    have applied := decides.applyAll ready.decided
      (ready.truthful_requests fun _ => inbox_of_mem_prepared)
    exact fun entity state present => applied entity state present

theorem evolve (guarded : cluster.Guarded) (consistent : cluster.Consistent scenario)
    (orders : Nat → VisitOrder) (n : Nat) : (cluster.evolve orders n).Guarded := by
  induction n with
  | zero => exact guarded
  | succ n ih => exact ih.tickIn (consistent.evolve orders n) (orders n)

end Guarded

/-- After every number of ticks, the entities of a cluster are those of its scenario, and the access
list of each lets its current owner, one of the workers, write every component that the scenario gives
it.  Nobody may write anything else; in particular a handover leaves nothing to the owner before. -/
theorem writers_are_owners {settings : Settings} {cluster : Cluster}
    (accepted : new settings = .ok cluster) (orders : Nat → VisitOrder) (n : Nat) :
    let now := cluster.evolve orders n
    (∀ entity ∈ now.entities, entity ∈ settings.scenario.entities.map (·.id)) ∧
      ∀ seed ∈ settings.scenario.entities, ∃ state, now.entities[seed.id]? = some state ∧
        state.components = seed.components ∧ state.owner ∈ settings.scenario.workers ∧
        ∀ component, state.acl.writerOf component =
          if component ∈ seed.components then some state.owner else none := by
  obtain ⟨sound, rfl⟩ := (new_eq_ok_iff settings cluster).mp accepted
  intro now
  have start := consistent_initial sound
  have consistent : now.Consistent settings.scenario := start.evolve orders n
  have guarded : now.Guarded := (guarded_initial sound).evolve start orders n
  refine ⟨fun entity present => ?_, fun seed listed => ?_⟩
  · obtain ⟨seed, found, _⟩ := consistent.exists_seed (Std.ExtTreeMap.getElem?_eq_some_getElem present)
    exact List.mem_map.mpr
      ⟨seed, List.mem_of_find?_eq_some found, by simpa using List.find?_some found⟩
  · have found := (find?_key_eq_some_iff sound.entities_nodup seed.id seed).mpr ⟨listed, rfl⟩
    have same := consistent.listed seed.id
    rw [found, Option.map_some, Option.map_eq_some_iff] at same
    obtain ⟨state, present, components⟩ := same
    refine ⟨state, present, components, consistent.owned present, ?_⟩
    rw [← components]
    exact guarded seed.id state present

/-- In tick 40 of the standard scenario the first entity is handed over.  From then on only its new
owner may write its components, and nobody its intent. -/
theorem writers_are_owners_standard :
    let now := (initial .standard).evolve (fun _ => .ascending) 40
    new .standard = .ok (initial .standard) ∧ now.owner? ⟨1⟩ = some ⟨"ServerWorker3"⟩ ∧
      ∃ state, now.entities[(⟨1⟩ : EntityId)]? = some state ∧
        state.acl.writerOf 101 = some state.owner ∧ state.acl.writerOf .intent = none := by
  intro now
  have moved : now.owner? ⟨1⟩ = some ⟨"ServerWorker3"⟩ := by decide +kernel
  obtain ⟨state, present, _, _, writers⟩ :=
    (writers_are_owners new_standard (fun _ => .ascending) 40).2 ⟨⟨1⟩, ⟨1⟩, [100, 101, 102]⟩ (by decide)
  refine ⟨new_standard, moved, state, present, ?_, ?_⟩
  · rw [writers, if_pos (by decide)]
  · rw [writers, if_neg (by decide)]

end Cluster

end Handover
