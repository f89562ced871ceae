import Handover.Proofs.Acceptance
import Handover.Proofs.Cluster.Phases

/-! # What the workers know

Nothing a worker knows is ever wrong for long: its view is the true state of the cluster up to the
messages that wait in its inbox, whatever the scripts do and in whatever order entities are visited.
So when the enforcers run, which is right after delivery, exactly the owner of an entity may hand it
over.

The invariant `Consistent` speaks of the *outlook* of a process, not of its view.  A restart throws away
an inbox with messages that the cluster counted on; it is the snapshot in the new inbox that makes up
for them.
-/

namespace Handover

/-- The view tells a worker the truth about all entities: their intents, access lists and components,
and for each whether the worker owns it. -/
structure View.Faithful (view : View) (entities : Std.ExtTreeMap EntityId EntityState)
    (worker : WorkerName) : Prop where
  entities_eq : view.entityIds = entities.keys
  intent_eq : ∀ (entity : EntityId) (state : EntityState), entities[entity]? = some state →
    view.intent? entity = some state.intent
  accessList_eq : ∀ (entity : EntityId) (state : EntityState), entities[entity]? = some state →
    view.accessList? entity = some state.acl
  presence_eq : ∀ (entity : EntityId) (state : EntityState), entities[entity]? = some state →
    view.presence? entity = some state.components
  authority_eq : ∀ (entity : EntityId) (state : EntityState), entities[entity]? = some state →
    view.authority entity .accessList =
      if state.owner = worker then .authoritative else .notAuthoritative

namespace View.Mirrors

variable {view : View} {entities : Std.ExtTreeMap EntityId EntityState} {worker : WorkerName}

theorem faithful (mirrors : view.Mirrors entities worker) : view.Faithful entities worker where
  entities_eq := mirrors.entityIds_eq
  intent_eq _ _ present := (mirrors.shown present).intent?_eq
  accessList_eq _ _ present := (mirrors.shown present).accessList?_eq
  presence_eq _ _ present := (mirrors.shown present).presence?_eq
  authority_eq _ _ present := (mirrors.shown present).authority_eq

end View.Mirrors

namespace Cluster

/-! ## The invariant -/

/-- The processes are those of the scenario, in its order; so are the entities and their components;
every entity has one of the workers as owner; and every process will see the entities as they are. -/
structure Consistent (scenario : Scenario) (cluster : Cluster) : Prop where
  names : cluster.processes.map (·.name) = scenario.workers
  listed : ∀ entity, cluster.entities[entity]?.map (·.components) =
    (scenario.entities.find? (·.id = entity)).map (·.components)
  owned : ∀ {entity : EntityId} {state : EntityState}, cluster.entities[entity]? = some state →
    state.owner ∈ scenario.workers
  mirrored : ∀ p ∈ cluster.processes, p.outlook.Mirrors cluster.entities p.name

theorem getElem?_initial {settings : Settings} (sound : settings.scenario.Sound)
    (entity : EntityId) :
    (initial settings).entities[entity]? =
      (settings.scenario.entities.find? (·.id = entity)).map fun seed =>
        .ofSeed seed (settings.scenario.workers.headD .nobody) := by
  have distinct : (settings.scenario.entities.map fun seed =>
      (seed.id, EntityState.ofSeed seed (settings.scenario.workers.headD .nobody))).Pairwise
        fun row row' => ¬ compare row.1 row'.1 = .eq := by
    rw [List.pairwise_map]
    refine (List.pairwise_map.mp sound.entities_nodup).imp fun apart same => apart ?_
    exact Std.LawfulEqCmp.eq_of_compare same
  -- the entities are distinct, so no later seed overwrites the one that is found
  cases found : settings.scenario.entities.find? (·.id = entity) with
  | none =>
    refine Std.ExtTreeMap.getElem?_ofList_of_contains_eq_false ?_
    simpa using found
  | some seed =>
    obtain rfl : seed.id = entity := by simpa using List.find?_some found
    refine Std.ExtTreeMap.getElem?_ofList_of_mem Std.ReflCmp.compare_self distinct ?_
    exact List.mem_map.mpr ⟨seed, List.mem_of_find?_eq_some found, rfl⟩

theorem consistent_initial {settings : Settings} (sound : settings.scenario.Sound) :
    (initial settings).Consistent settings.scenario where
  names := by
    rw [initial, List.map_map]
    exact List.map_id _
  listed := by
    intro entity
    rw [getElem?_initial sound, Option.map_map]
    rfl
  owned := by
    intro entity state present
    rw [getElem?_initial sound, Option.map_eq_some_iff] at present
    obtain ⟨seed, _, rfl⟩ := present
    rw [EntityState.ofSeed]
    cases workers : settings.scenario.workers with
    | nil => exact absurd workers sound.workers_ne_nil
    | cons first rest => exact List.mem_cons_self
  mirrored := by
    intro p member
    obtain ⟨worker, _, rfl⟩ := List.mem_map.mp member
    -- a process starts with nothing in its view and the snapshot in its inbox
    exact View.mirrors_snapshot _ worker

namespace Consistent

variable {scenario : Scenario} {cluster : Cluster}

theorem names_map (consistent : cluster.Consistent scenario) {f : Process → Process}
    (named : ∀ p, (f p).name = p.name) :
    (cluster.processes.map f).map (·.name) = scenario.workers := by
  rw [List.map_map, ← consistent.names]
  exact List.map_congr_left fun p _ => named p

/-- A phase that leaves the entities alone keeps the invariant if it keeps the names and makes the
outlooks follow the entities. -/
theorem of_map (consistent : cluster.Consistent scenario) {f : Process → Process}
    (named : ∀ p, (f p).name = p.name)
    (mirrored : ∀ p ∈ cluster.processes, (f p).outlook.Mirrors cluster.entities p.name) :
    { cluster with processes := cluster.processes.map f }.Consistent scenario where
  names := consistent.names_map named
  listed := consistent.listed
  owned := consistent.owned
  mirrored := by
    intro q sent
    obtain ⟨p, member, rfl⟩ := List.mem_map.mp sent
    rw [named]
    exact mirrored p member

/-- A phase that tells every process of a change to an entity keeps the invariant. -/
theorem of_insert (consistent : cluster.Consistent scenario) {entity : EntityId}
    {state : EntityState} (present : cluster.entities[entity]? = some state) (state' : EntityState)
    (components : state'.components = state.components)
    (owned : state'.owner ∈ scenario.workers) {ops : Process → List WorkerOp}
    (mirrored : ∀ p ∈ cluster.processes, (p.outlook.replay (ops p)).Mirrors
      (cluster.entities.insert entity state') p.name) :
    { cluster with
      entities := cluster.entities.insert entity state'
      processes := cluster.processes.map fun p : Process => p.sendAll (ops p) }.Consistent scenario where
  names := consistent.names_map fun _ => rfl
  listed := by
    intro e
    rw [← consistent.listed, Std.ExtTreeMap.getElem?_insert]
    split
    case isTrue same =>
      rw [Std.LawfulEqCmp.compare_eq_iff_eq] at same
      rw [← same, present, Option.map_some, Option.map_some, components]
    case isFalse => rfl
  owned := by
    intro e other present'
    rw [Std.ExtTreeMap.getElem?_insert] at present'
    split at present'
    · obtain rfl := Option.some.inj present'
      exact owned
    · exact consistent.owned present'
  mirrored := by
    intro q sent
    obtain ⟨p, member, rfl⟩ := List.mem_map.mp sent
    rw [Process.outlook_sendAll]
    exact mirrored p member

/-- What a process does on its own keeps the invariant, as long as it sees the same in the end. -/
theorem eachProcess (consistent : cluster.Consistent scenario)
    {f : Process → Logged Event Process} (named : ∀ p, (f p).value.name = p.name)
    (same : ∀ p, (f p).value.outlook = p.outlook) :
    (cluster.eachProcess f).value.Consistent scenario := by
  rw [value_eachProcess]
  refine consistent.of_map named fun p member => ?_
  rw [same]
  exact consistent.mirrored p member

theorem setIntent (consistent : cluster.Consistent scenario) (change : IntentChange) :
    (cluster.setIntent change).value.Consistent scenario := by
  cases present : cluster.entities[change.entity]? with
  | none =>
    rw [value_setIntent_of_absent present]
    exact consistent
  | some state =>
    rw [value_setIntent present]
    have owned := consistent.owned present
    exact consistent.of_insert present { state with intent := change.intent } rfl owned
      fun p member =>
        (consistent.mirrored p member).setIntent present change.intent

theorem setIntents (consistent : cluster.Consistent scenario) (changes : List IntentChange) :
    (cluster.setIntents changes).Consistent scenario :=
  List.foldlRecOn changes _ (motive := Consistent scenario) consistent
    fun _ kept change _ => kept.setIntent change

/-- A restarted process starts from a snapshot, so it does not miss what its inbox had. -/
theorem restartAll (consistent : cluster.Consistent scenario) (restarts : List WorkerRestart) :
    (cluster.restartAll restarts).Consistent scenario := by
  rw [restartAll_eq]
  refine consistent.of_map (fun p => ?_) fun p member => ?_
  · split <;> rfl
  · split
    · -- the lost inbox does not matter, as the new view starts from nothing
      exact View.mirrors_snapshot cluster.entities p.name
    · exact consistent.mirrored p member

theorem playScripts (consistent : cluster.Consistent scenario) :
    cluster.playScripts.value.Consistent scenario := by
  rw [value_playScripts]
  have counted : cluster.nextTick.Consistent scenario :=
    ⟨consistent.names, consistent.listed, consistent.owned, consistent.mirrored⟩
  exact (counted.setIntents _).restartAll _

theorem delivered (consistent : cluster.Consistent scenario) :
    cluster.delivered.Consistent scenario := by
  refine consistent.eachProcess (fun p => ?_) fun p => ?_
  · rw [Process.value_deliver]
  · rw [Process.value_deliver]
    rfl

theorem prepared (consistent : cluster.Consistent scenario) (order : VisitOrder) :
    (cluster.prepared order).Consistent scenario := by
  rw [prepared_eq]
  split
  · refine consistent.playScripts.delivered.eachProcess (fun p => ?_) fun p => ?_
    · rw [Process.value_rescan]
    · -- the enforcer changes and the view does not
      rw [Process.value_rescan]
      rfl
  · exact consistent.playScripts.delivered

theorem decided (consistent : cluster.Consistent scenario) :
    cluster.decided.Consistent scenario :=
  consistent.eachProcess (fun _ => rfl) fun _ => rfl

/-- A handover reaches every process as a message, so no outlook falls behind. -/
theorem applyRequest (consistent : cluster.Consistent scenario) (issuer : WorkerName)
    (request : AclRequest) : (cluster.applyRequest issuer request).value.2.Consistent scenario := by
  rcases cluster.value_applyRequest issuer request with
    same | ⟨state, present, _, known, applied⟩
  · rw [same]
    exact consistent
  · rw [applied]
    split
    case isTrue => exact consistent
    case isFalse moved =>
      rw [handOver_eq]
      rw [consistent.names] at known
      exact consistent.of_insert present
        { state with owner := request.owner, acl := request.accessList } rfl known fun p member =>
          (consistent.mirrored p member).handOver present request.accessList moved

theorem applyAll (consistent : cluster.Consistent scenario)
    (requests : List (WorkerName × AclRequest)) :
    (cluster.applyAll requests).Consistent scenario :=
  List.foldlRecOn requests _ (motive := Consistent scenario) consistent
    fun _ kept row _ => kept.applyRequest row.1 row.2

theorem tickIn (consistent : cluster.Consistent scenario) (order : VisitOrder) :
    (cluster.tickIn order).2.Consistent scenario := by
  have before := consistent.prepared order
  cases balanced : cluster.loadBalancing with
  | false =>
    rw [tickIn_of_off balanced]
    exact before
  | true =>
    rw [tickIn_of_on balanced, value_coordinate]
    have settled := before.decided.applyAll (cluster.prepared order).requests
    exact ⟨settled.names, settled.listed, settled.owned, settled.mirrored⟩

theorem evolve (consistent : cluster.Consistent scenario) (orders : Nat → VisitOrder) (n : Nat) :
    (cluster.evolve orders n).Consistent scenario := by
  induction n with
  | zero => exact consistent
  | succ n ih => exact ih.tickIn (orders n)

/-! ## Who may hand over -/

end Consistent

variable {scenario : Scenario} {cluster : Cluster} {order : VisitOrder}

theorem inbox_of_mem_delivered {p : Process} (member : p ∈ cluster.delivered.processes) :
    p.inbox = [] := by
  rw [delivered, value_eachProcess] at member
  obtain ⟨q, _, rfl⟩ := List.mem_map.mp member
  rw [Process.value_deliver]

/-- When the enforcers run, no message waits. -/
theorem inbox_of_mem_prepared {p : Process} (member : p ∈ (cluster.prepared order).processes) :
    p.inbox = [] := by
  rw [prepared_eq] at member
  split at member
  · rw [rescanned, value_eachProcess] at member
    obtain ⟨q, taken, rfl⟩ := List.mem_map.mp member
    have same := inbox_of_mem_delivered taken
    rw [Process.value_rescan]
    exact same
  · exact inbox_of_mem_delivered member

/-- A process that has taken all its messages sees the entities as they are. -/
theorem Consistent.view_mirrors (consistent : cluster.Consistent scenario) {p : Process}
    (member : p ∈ cluster.processes) (taken : p.inbox = []) :
    p.view.Mirrors cluster.entities p.name := by
  have mirrors := consistent.mirrored p member
  rw [Process.outlook, taken] at mirrors
  exact mirrors

/-- When the enforcers run, exactly the owner of an entity may hand it over. -/
theorem Consistent.writers_eq (consistent : cluster.Consistent scenario)
    (distinct : scenario.workers.Nodup) {entity : EntityId}
    {state : EntityState} (present : (cluster.prepared order).entities[entity]? = some state) :
    ((cluster.prepared order).processes.filter (·.view.mayHandOver entity)).map (·.name) =
      [state.owner] := by
  have ready := consistent.prepared order
  have owner : ∀ p ∈ (cluster.prepared order).processes,
      p.view.mayHandOver entity = decide (p.name = state.owner) := by
    intro p member
    have mirrors := ready.view_mirrors member (inbox_of_mem_prepared member)
    rw [mirrors.mayHandOver_eq present]
    exact decide_eq_decide.mpr eq_comm
  -- among distinct names, the owner's is met exactly once
  have named : ((cluster.prepared order).processes.filter (·.view.mayHandOver entity)).map
      (·.name) = scenario.workers.filter (· = state.owner) := by
    rw [List.filter_congr owner, ← ready.names, List.filter_map]
    rfl
  rw [named, List.filter_eq, distinct.count, if_pos (ready.owned present)]
  rfl

/-- After every number of ticks, the processes and entities are those of the scenario; a worker that
takes what waits in its inbox knows all entities as they are; and in the next tick exactly the owner of
an entity may hand it over when the enforcers run.  They run in what the tick has `prepared`, and
nothing comes between the two (`tickIn_of_on`). -/
theorem views_agree_with_entities {settings : Settings} {cluster : Cluster}
    (accepted : new settings = .ok cluster) (orders : Nat → VisitOrder) (n : Nat) :
    let now := cluster.evolve orders n
    let deciding := now.prepared (orders n)
    now.processes.map (·.name) = settings.scenario.workers ∧
      (∀ entity, now.entities[entity]?.map (·.components) =
        (settings.scenario.entities.find? (·.id = entity)).map (·.components)) ∧
      (∀ p ∈ now.processes, (p.view.replay p.inbox).Faithful now.entities p.name) ∧
      ∀ entity state, deciding.entities[entity]? = some state →
        (deciding.processes.filter (·.view.mayHandOver entity)).map (·.name) = [state.owner] := by
  obtain ⟨sound, rfl⟩ := (new_eq_ok_iff settings cluster).mp accepted
  have consistent := (consistent_initial sound).evolve orders n
  refine ⟨consistent.names, consistent.listed, fun p member => ?_, fun entity state present => ?_⟩
  · exact (consistent.mirrored p member).faithful
  · exact consistent.writers_eq sound.workers_nodup present

/-- The views of the standard scenario after tick 60, in which a worker restarted.  In tick 61 that
worker is again the one that may hand over entity 5, which it never gave away. -/
theorem views_agree_with_entities_standard :
    let now := (initial .standard).evolve (fun _ => .ascending) 60
    new .standard = .ok (initial .standard) ∧
      (∀ p ∈ now.processes, (p.view.replay p.inbox).Faithful now.entities p.name) ∧
      ((now.prepared .ascending).processes.filter (·.view.mayHandOver ⟨5⟩)).map (·.name) =
        [⟨"ServerWorker2"⟩] := by
  intro now
  obtain ⟨_, _, faithful, writers⟩ :=
    views_agree_with_entities new_standard (fun _ => .ascending) 60
  have owned : (now.prepared .ascending).owner? ⟨5⟩ = some ⟨"ServerWorker2"⟩ := by decide +kernel
  obtain ⟨state, present, owner⟩ := Option.map_eq_some_iff.mp owned
  refine ⟨new_standard, faithful, ?_⟩
  rw [← owner]
  exact writers ⟨5⟩ state present

end Cluster

end Handover
