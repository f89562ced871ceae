import Handover.Proofs.Cluster.Queues

/-! # A tick as a step of ownership

A tick with load balancing does to every entity what `Placement.next` says, although the cluster gets
there by way of inboxes, views, queues and translators in various stages.

Between ticks the owner of an entity has it queued exactly if the entity has just arrived (`Poised`).
So when the enforcers run, the entity is queued exactly if the abstract step calls it triggered, and
everything else a request needs is settled by then.
-/

namespace Handover.Cluster

variable {settings : Settings} {cluster : Cluster} {order : VisitOrder} {n : Nat}
  {entity : EntityId} {arrived : EntityId → Bool}

/-! ## Placements -/

/-- Where the cluster has an entity, given whether it has just arrived there. -/
def placed? (cluster : Cluster) (arrived : EntityId → Bool) (entity : EntityId) : Option Placement :=
  cluster.entities[entity]?.map fun state => ⟨state.intent, state.owner, arrived entity⟩

/-- Whether an entity came to its owner between one cluster and the next. -/
def arrivals (before after : Cluster) (entity : EntityId) : Bool :=
  decide (before.owner? entity ≠ after.owner? entity)

/-- Whether an entity came to its owner in the last of so many ticks. -/
def arrivedAt (cluster : Cluster) (orders : Nat → VisitOrder) : Nat → EntityId → Bool
  | 0, _ => false
  | n + 1, entity => (cluster.evolve orders n).arrivals (cluster.evolve orders (n + 1)) entity

/-- The placement of an entity after so many ticks; none if there is no such entity. -/
def placement? (cluster : Cluster) (orders : Nat → VisitOrder) (n : Nat) (entity : EntityId) :
    Option Placement :=
  (cluster.evolve orders n).placed? (cluster.arrivedAt orders n) entity

/-- The entities that are asked for in the tick after so many ticks, in ascending order. -/
def askedFor (cluster : Cluster) (settings : Settings) (orders : Nat → VisitOrder) (n : Nat) :
    List EntityId :=
  (cluster.evolve orders n).entities.keys.filter fun entity =>
    (cluster.placement? orders n entity).any (·.asked settings (n + 1) entity)

/-- What holds between two ticks with load balancing: the owners have queued what has just arrived,
and before the first tick everything. -/
structure Poised (settings : Settings) (ticks : Nat) (arrived : EntityId → Bool)
    (cluster : Cluster) : Prop extends Resting settings ticks cluster where
  queued : ∀ entity, cluster.OwnerQueued entity (decide (ticks = 0) || arrived entity)

theorem poised_initial (sound : settings.scenario.Sound) :
    Poised settings 0 (fun _ => false) (initial settings) where
  toResting := resting_initial sound
  queued := by
    intro entity p member owner
    obtain ⟨worker, _, rfl⟩ := List.mem_map.mp member
    obtain ⟨state, present, _⟩ := Option.map_eq_some_iff.mp owner
    rw [Process.contains_agenda]
    refine (WorkerOp.queuedAfterAll_snapshot (initial settings).entities worker entity _).trans ?_
    rw [Std.ExtTreeMap.contains_eq_isSome_getElem?, present]
    rfl

/-! ## Up to the enforcers -/

theorem filter_changesDue (scenario : Scenario) (tick : Nat) (entity : EntityId) :
    (changesDue scenario.intentChanges tick).filter (·.entity = entity) =
      scenario.changesAt tick entity := by
  rw [changesDue, List.filter_filter, Scenario.changesAt]
  refine List.filter_congr fun change _ => ?_
  rw [Bool.eq_iff_iff]
  simp [and_comm]

theorem any_changesDue (scenario : Scenario) (tick : Nat) (entity : EntityId) :
    (changesDue scenario.intentChanges tick).any (·.entity = entity) =
      decide (scenario.changesAt tick entity ≠ []) := by
  rw [← filter_changesDue, Bool.eq_iff_iff, decide_eq_true_iff, List.any_eq_true, ne_eq,
    List.filter_eq_nil_iff]
  simp

theorem Resting.getElem?_prepared (resting : Resting settings n cluster) (order : VisitOrder)
    (entity : EntityId) :
    (cluster.prepared order).entities[entity]? =
      cluster.entities[entity]?.map fun state =>
        { state with
          intent := (settings.scenario.changesAt (n + 1) entity).foldl
            (fun _ change => change.intent) state.intent } := by
  rw [entities_prepared, getElem?_setIntents, resting.tick, resting.intentChanges_eq,
    filter_changesDue]
  rfl

theorem Resting.rescanDue_iff (resting : Resting settings n cluster) :
    cluster.playScripts.value.delivered.rescanDue = true ↔ settings.rescansAt (n + 1) := by
  obtain ⟨samePlan, sameTick⟩ := cluster.abreast_delivered
  have interval : cluster.playScripts.value.delivered.rescanInterval =
      settings.coordination.rescanInterval.toNat :=
    (congrArg Plan.rescanInterval samePlan).trans resting.rescanInterval_eq
  have tick : cluster.playScripts.value.delivered.tick = n + 1 :=
    sameTick.trans (congrArg (· + 1) resting.tick)
  rw [rescanDue, interval, tick, decide_eq_true_iff, Settings.rescansAt, Nat.dvd_iff_mod_eq_zero]

/-- What the scripts leave queued at an owner that does not restart. -/
theorem Poised.queued_playScripts (poised : Poised settings n arrived cluster) {state : EntityState}
    (present : cluster.entities[entity]? = some state)
    (stays : settings.scenario.restartsAt (n + 1) state.owner = false) :
    cluster.playScripts.value.OwnerQueued entity
      (decide (settings.scenario.changesAt (n + 1) entity ≠ []) ||
        (decide (n = 0) || arrived entity)) := by
  have counted : cluster.nextTick.OwnerQueued entity (decide (n = 0) || arrived entity) :=
    poised.queued entity
  rw [value_playScripts, poised.tick, poised.intentChanges_eq, poised.restarts_eq,
    ← any_changesDue]
  refine (counted.setIntents _).restartAll fun owner owned => ?_
  rw [owner?, getElem?_setIntents, Option.map_map] at owned
  have same : state.owner = owner := by simpa [nextTick, present] using owned
  rw [← same, mem_restartsDue, stays]
  exact Bool.false_ne_true

/-- When the enforcers run, the owner of an entity has it queued exactly if something made it look at
the entity, unless it restarts. -/
theorem Poised.queued_prepared (poised : Poised settings n arrived cluster) (order : VisitOrder)
    {placement : Placement} (here : cluster.placed? arrived entity = some placement)
    (stays : settings.scenario.restartsAt (n + 1) placement.owner = false) :
    (cluster.prepared order).OwnerQueued entity
      (decide (placement.triggered settings (n + 1) entity)) := by
  obtain ⟨state, present, rfl⟩ := Option.map_eq_some_iff.mp here
  rw [prepared_eq]
  by_cases rescan : settings.rescansAt (n + 1)
  · -- a rescan queues the entity, whatever was queued before
    have triggered : (⟨state.intent, state.owner, arrived entity⟩ : Placement).triggered settings
        (n + 1) entity := .inr (.inr (.inl rescan))
    rw [if_pos (poised.rescanDue_iff.mpr rescan), decide_eq_true triggered]
    exact ownerQueued_rescanned poised.consistent.playScripts.delivered
      (fun _ member => inbox_of_mem_delivered member) order entity
  · rw [if_neg fun due => rescan (poised.rescanDue_iff.mp due),
      Placement.decide_triggered_of_not_rescansAt rescan]
    exact (poised.queued_playScripts present stays).delivered

theorem contains_pending_of_mem_prepared {p : Process}
    (member : p ∈ (cluster.prepared order).processes) (entity : EntityId) :
    p.enforcer.pending.contains entity = p.agenda.pending.contains entity := by
  rw [Process.contains_agenda, inbox_of_mem_prepared member]
  rfl

theorem owner?_prepared (cluster : Cluster) (order : VisitOrder) (entity : EntityId) :
    (cluster.prepared order).owner? entity = cluster.owner? entity := by
  rw [owner?, entities_prepared, getElem?_setIntents, Option.map_map]
  rfl

/-! ## From the enforcers to the next tick -/

/-- The cluster of a tick after all its requests. -/
def applied (cluster : Cluster) (order : VisitOrder) : Cluster :=
  (cluster.prepared order).decided.applyAll (cluster.prepared order).requests

theorem entities_tickIn (on : cluster.loadBalancing = true) (order : VisitOrder) :
    (cluster.tickIn order).2.entities = (cluster.applied order).entities := by
  rw [tickIn_of_on on, value_coordinate, applied]

theorem processes_tickIn (on : cluster.loadBalancing = true) (order : VisitOrder) :
    (cluster.tickIn order).2.processes = (cluster.applied order).processes := by
  rw [tickIn_of_on on, value_coordinate, applied]

/-- The cluster has the entity as the placement says, and it is queued at its owner exactly if it has
just arrived there. -/
structure Holds (cluster : Cluster) (entity : EntityId) (placement : Placement) : Prop where
  present : ∃ state, cluster.entities[entity]? = some state ∧
    state.intent = placement.intent ∧ state.owner = placement.owner
  queued : cluster.OwnerQueued entity placement.arrived

section

variable (sound : settings.scenario.Sound) (few : settings.scenario.workers.length < UInt32.size)

include sound few

/-- A request comes from the owner of an entity that is asked for and names the worker it is meant
for. -/
theorem Poised.placement_of_mem_requests (poised : Poised settings n arrived cluster)
    {row : WorkerName × AclRequest} (member : row ∈ (cluster.prepared order).requests) :
    ∃ placement, cluster.placed? arrived row.2.entity = some placement ∧
      placement.owner = row.1 ∧ placement.asked settings (n + 1) row.2.entity ∧
      settings.scenario.worker? (placement.nextIntent settings (n + 1) row.2.entity) =
        some row.2.owner := by
  have deciding := poised.prepared sound few order
  obtain ⟨p, decides, named, asked⟩ := mem_requests.mp member
  obtain ⟨queued, stays, state, target, present, owned, served, same⟩ :=
    (deciding.mem_requests_iff sound few decides row.2).mp asked
  have target_eq : row.2.owner = target := congrArg AclRequest.owner same
  have owner : (cluster.prepared order).owner? row.2.entity = some p.name := by
    rw [owner?, present, Option.map_some, owned]
  rw [poised.getElem?_prepared, Option.map_eq_some_iff] at present
  obtain ⟨before, present, rfl⟩ := present
  have here : cluster.placed? arrived row.2.entity =
      some ⟨before.intent, before.owner, arrived row.2.entity⟩ := by
    rw [placed?, present]
    rfl
  -- the issuer does not restart, so what it has queued is what was triggered
  have spared : settings.scenario.restartsAt (n + 1) before.owner = false := owned ▸ stays
  rw [contains_pending_of_mem_prepared decides,
    poised.queued_prepared order here spared p decides owner, decide_eq_true_iff] at queued
  refine ⟨_, here, owned.trans named, ⟨Scenario.serves_of_worker? served, spared, queued⟩, ?_⟩
  rw [target_eq]
  exact served

theorem Poised.exists_request (poised : Poised settings n arrived cluster)
    (order : VisitOrder) {placement : Placement}
    (here : cluster.placed? arrived entity = some placement)
    (asked : placement.asked settings (n + 1) entity) :
    ∃ row ∈ (cluster.prepared order).requests, row.2.entity = entity := by
  have deciding := poised.prepared sound few order
  obtain ⟨served, spared, triggered⟩ := asked
  obtain ⟨target, served⟩ := Scenario.exists_worker?_of_serves served
  have queued := poised.queued_prepared order here spared
  obtain ⟨state, present, rfl⟩ := Option.map_eq_some_iff.mp here
  obtain ⟨state', present', intent, owner⟩ : ∃ state' : EntityState,
      (cluster.prepared order).entities[entity]? = some state' ∧
        settings.scenario.worker? state'.intent = some target ∧ state'.owner = state.owner := by
    rw [poised.getElem?_prepared, present]
    exact ⟨_, rfl, served, rfl⟩
  -- the owner is one of the processes, so there is somebody to ask
  have listed := deciding.consistent.owned present'
  rw [← deciding.consistent.names, List.mem_map] at listed
  obtain ⟨p, decides, named⟩ := listed
  have owned : (cluster.prepared order).owner? entity = some p.name := by
    rw [owner?, present', Option.map_some, named]
  have full := queued p decides owned
  rw [decide_eq_true triggered, ← contains_pending_of_mem_prepared decides] at full
  refine ⟨(p.name, ⟨entity, target, .ofList state'.components⟩), ?_, rfl⟩
  refine mem_requests.mpr ⟨p, decides, rfl, ?_⟩
  refine (deciding.mem_requests_iff sound few decides _).mpr ⟨full, ?_, ?_⟩
  · rw [named, owner]
    exact spared
  · exact ⟨state', target, present', named.symm, intent, rfl⟩

theorem Poised.ne_of_not_asked (poised : Poised settings n arrived cluster) (order : VisitOrder)
    (idle : ∀ placement, cluster.placed? arrived entity = some placement →
      ¬ placement.asked settings (n + 1) entity) :
    ∀ row ∈ (cluster.prepared order).requests, row.2.entity ≠ entity := by
  rintro row member rfl
  obtain ⟨placement, here, _, asked, _⟩ := poised.placement_of_mem_requests sound few member
  exact idle placement here asked

/-- An entity that is not asked for stays, and is not queued any more. -/
theorem Poised.holds_of_not_asked (poised : Poised settings n arrived cluster)
    (order : VisitOrder) {placement : Placement}
    (here : cluster.placed? arrived entity = some placement)
    (idle : ¬ placement.asked settings (n + 1) entity) :
    (cluster.applied order).Holds entity (placement.next settings (n + 1) entity) := by
  have others : ∀ row ∈ (cluster.prepared order).requests, row.2.entity ≠ entity := by
    refine poised.ne_of_not_asked sound few order fun other here' => ?_
    obtain rfl := Option.some.inj (here.symm.trans here')
    exact idle
  obtain ⟨same, still⟩ := applyAll_of_others others (ownerQueued_decided order entity)
  have stays := Placement.owner_next_of_not_asked idle
  obtain ⟨state, present, rfl⟩ := Option.map_eq_some_iff.mp here
  have deciding := poised.getElem?_prepared order entity
  rw [present] at deciding
  refine ⟨⟨_, same.trans deciding, rfl, stays.symm⟩, ?_⟩
  rw [Placement.arrived_next, decide_eq_false (not_not_intro stays)]
  exact still

/-- An entity that is asked for goes to the worker it is meant for, and is queued there if it was not
there already. -/
theorem Poised.holds_of_asked (poised : Poised settings n arrived cluster)
    (order : VisitOrder) {placement : Placement}
    (here : cluster.placed? arrived entity = some placement)
    (asked : placement.asked settings (n + 1) entity) :
    (cluster.applied order).Holds entity (placement.next settings (n + 1) entity) := by
  obtain ⟨row, member, rfl⟩ := poised.exists_request sound few order here asked
  obtain ⟨placement', here', _, _, served⟩ := poised.placement_of_mem_requests sound few member
  obtain rfl := Option.some.inj (here.symm.trans here')
  have goes := Placement.owner_next_of_asked asked served
  obtain ⟨state, present, rfl⟩ := Option.map_eq_some_iff.mp here
  have deciding := poised.getElem?_prepared order row.2.entity
  rw [present] at deciding
  obtain ⟨⟨acl, after⟩, queued⟩ :=
    ((poised.prepared sound few order).admissible sound few).applyAll_of_mem member deciding
      (ownerQueued_decided order row.2.entity)
  refine ⟨⟨_, after, rfl, goes.symm⟩, ?_⟩
  rw [Placement.arrived_next, goes]
  exact queued

/-- One entity in one tick: it goes where `Placement.next` says, and it is queued there exactly if it
has come from elsewhere. -/
theorem Poised.placed_tickIn (poised : Poised settings n arrived cluster)
    (on : cluster.loadBalancing = true) (order : VisitOrder) (entity : EntityId) :
    (cluster.tickIn order).2.placed? (cluster.arrivals (cluster.tickIn order).2) entity =
        (cluster.placed? arrived entity).map (·.next settings (n + 1) entity) ∧
      (cluster.tickIn order).2.OwnerQueued entity
        (cluster.arrivals (cluster.tickIn order).2 entity) := by
  cases here : cluster.placed? arrived entity with
  | none =>
    have others : ∀ row ∈ (cluster.prepared order).requests, row.2.entity ≠ entity := by
      refine poised.ne_of_not_asked sound few order fun placement here' => ?_
      rw [here] at here'
      cases here'
    -- an entity that is not there does not appear, and has no owner to queue it
    have absent : (cluster.tickIn order).2.entities[entity]? = none := by
      rw [entities_tickIn on, applied,
        (applyAll_of_others others (ownerQueued_decided order entity)).1]
      refine (poised.getElem?_prepared order entity).trans ?_
      rw [Option.map_eq_none_iff.mp here, Option.map_none]
    refine ⟨?_, fun p _ owner => ?_⟩
    · rw [placed?, absent]
      rfl
    · rw [owner?, absent] at owner
      cases owner
  | some placement =>
    have holds : (cluster.applied order).Holds entity (placement.next settings (n + 1) entity) := by
      by_cases asked : placement.asked settings (n + 1) entity
      · exact poised.holds_of_asked sound few order here asked
      · exact poised.holds_of_not_asked sound few order here asked
    obtain ⟨⟨state, present, intent, owner⟩, queued⟩ := holds
    rw [← entities_tickIn on] at present
    have moved : cluster.arrivals (cluster.tickIn order).2 entity =
        (placement.next settings (n + 1) entity).arrived := by
      obtain ⟨before, present', rfl⟩ := Option.map_eq_some_iff.mp here
      rw [arrivals, owner?, owner?, present', present, Option.map_some, Option.map_some, owner]
      exact decide_eq_decide.mpr (not_congr (Option.some_inj.trans eq_comm))
    rw [moved]
    refine ⟨?_, fun p member owned => ?_⟩
    · rw [placed?, present, moved, Option.map_some, Option.map_some, intent, owner]
    · rw [processes_tickIn on] at member
      rw [owner?, entities_tickIn on] at owned
      exact queued p member owned

theorem Poised.tickIn (poised : Poised settings n arrived cluster)
    (on : cluster.loadBalancing = true) (order : VisitOrder) :
    Poised settings (n + 1) (cluster.arrivals (cluster.tickIn order).2)
      (cluster.tickIn order).2 where
  toResting := poised.toResting.tickIn sound few order
  queued entity := by
    rw [decide_eq_false (Nat.succ_ne_zero n), Bool.false_or]
    exact (poised.placed_tickIn sound few on order entity).2

/-! ## Runs -/

theorem poised_evolve (on : settings.loadBalancing.enabled = true)
    (orders : Nat → VisitOrder) (n : Nat) :
    Poised settings n ((initial settings).arrivedAt orders n)
      ((initial settings).evolve orders n) := by
  induction n with
  | zero => exact poised_initial sound
  | succ n ih => exact ih.tickIn sound few (ih.loadBalancing_eq.trans on) (orders n)

theorem placement?_succ (on : settings.loadBalancing.enabled = true)
    (orders : Nat → VisitOrder) (n : Nat) (entity : EntityId) :
    (initial settings).placement? orders (n + 1) entity =
      ((initial settings).placement? orders n entity).map (·.next settings (n + 1) entity) := by
  have poised := poised_evolve sound few on orders n
  exact (poised.placed_tickIn sound few (poised.loadBalancing_eq.trans on) (orders n) entity).1

/-- Along a run the entities go where the scripts alone say. -/
theorem placement?_evolve (on : settings.loadBalancing.enabled = true)
    (orders : Nat → VisitOrder) (n : Nat) (entity : EntityId) :
    (initial settings).placement? orders n entity =
      (settings.scenario.entities.find? (·.id = entity)).map (Placement.after settings · n) := by
  induction n with
  | zero =>
    rw [placement?, placed?, evolve, getElem?_initial sound, Option.map_map]
    rfl
  | succ n ih =>
    rw [placement?_succ sound few on, ih, Option.map_map]
    refine Option.map_congr fun seed found => ?_
    have same : seed.id = entity := by simpa using List.find?_some found
    rw [Function.comp_apply, Placement.after, same]

/-- The requests of a tick are for the entities that are asked for, one for each. -/
theorem perm_askedFor (on : settings.loadBalancing.enabled = true)
    (orders : Nat → VisitOrder) (n : Nat) :
    ((((initial settings).evolve orders n).prepared (orders n)).requests.map (·.2.entity)).Perm
      ((initial settings).askedFor settings orders n) := by
  have poised := poised_evolve sound few on orders n
  have deciding := poised.prepared sound few (orders n)
  have nodup : ((initial settings).askedFor settings orders n).Nodup :=
    (Std.ExtTreeMap.nodup_keys).filter _
  have distinct := (deciding.admissible sound few).distinct
  -- neither list repeats an entity, so it is enough that they have the same ones
  refine (List.perm_ext_iff_of_nodup distinct nodup).mpr fun entity => ?_
  rw [askedFor, List.mem_filter, List.mem_map, Option.any_eq_true]
  constructor
  · rintro ⟨row, member, rfl⟩
    obtain ⟨placement, here, _, asked, _⟩ := poised.placement_of_mem_requests sound few member
    refine ⟨?_, placement, here, decide_eq_true asked⟩
    obtain ⟨state, present, _⟩ := Option.map_eq_some_iff.mp here
    rw [Std.ExtTreeMap.mem_keys, Std.ExtTreeMap.mem_iff_isSome_getElem?, present]
    rfl
  · rintro ⟨_, placement, here, asked⟩
    exact poised.exists_request sound few (orders n) here (of_decide_eq_true asked)

/-- The summary counts the entities that are asked for, and those of them that move. -/
theorem summary_tickIn (on : settings.loadBalancing.enabled = true)
    (orders : Nat → VisitOrder) (n : Nat) :
    (((initial settings).evolve orders n).tickIn (orders n)).1 =
      ⟨((initial settings).askedFor settings orders n).length,
        ((initial settings).askedFor settings orders n).countP fun entity =>
          ((initial settings).placement? orders n entity).any (·.displaced settings (n + 1) entity),
        0⟩ := by
  have poised := poised_evolve sound few on orders n
  have admissible := (poised.prepared sound few (orders n)).admissible sound few
  have perm := perm_askedFor sound few on orders n
  -- a request of the owner hands over exactly if the owner is not the intended one
  have moved : ∀ row ∈ (((initial settings).evolve orders n).prepared (orders n)).requests,
      (((if row.1 = row.2.owner then WriteOutcome.unchanged else .handover) == .handover) = true ↔
        ((initial settings).placement? orders n row.2.entity).any
          (·.displaced settings (n + 1) row.2.entity) = true) := by
    intro row member
    obtain ⟨placement, here, owner, _, served⟩ := poised.placement_of_mem_requests sound few member
    have here : (initial settings).placement? orders n row.2.entity = some placement := here
    rw [here, Option.any_some, decide_eq_true_iff, Placement.displaced, served, owner]
    by_cases stays : row.1 = row.2.owner
    · simp [stays]
    · simp [stays, Ne.symm stays]
  rw [tickIn_of_on (poised.loadBalancing_eq.trans on), fst_coordinate, admissible.count_rejected,
    admissible.outcomes_eq, List.count, List.countP_map, ← perm.countP_eq, List.countP_map,
    ← perm.length_eq, List.length_map]
  congr 1
  exact List.countP_congr moved

end

/-- A tick is a step of ownership.  With load balancing, the requests of tick `n + 1` are for the
entities that are asked for, one for each; every entity then is where `Placement.next` says; and the
summary counts the requests, those of them that move an entity, and no rejections.  So after every number
of ticks the entities are where the scripts alone lead them from the start.  Without load balancing
nothing happens to any owner. -/
theorem tick_refines_placement {settings : Settings} {cluster : Cluster}
    (accepted : new settings = .ok cluster) (few : settings.scenario.workers.length < UInt32.size)
    (orders : Nat → VisitOrder) (n : Nat) :
    let before := cluster.evolve orders n
    let askedFor := cluster.askedFor settings orders n
    (settings.loadBalancing.enabled = true →
      ((before.collected (orders n)).map (·.2.entity)).Perm askedFor ∧
      (∀ entity, cluster.placement? orders (n + 1) entity =
        (cluster.placement? orders n entity).map (·.next settings (n + 1) entity)) ∧
      (before.tickIn (orders n)).1 =
        ⟨askedFor.length,
          askedFor.countP fun entity =>
            (cluster.placement? orders n entity).any (·.displaced settings (n + 1) entity),
          0⟩ ∧
      ∀ entity, cluster.placement? orders n entity =
        (settings.scenario.entities.find? (·.id = entity)).map (Placement.after settings · n)) ∧
    (settings.loadBalancing.enabled = false →
      (before.tickIn (orders n)).1 = .quiet ∧
      ∀ entity, (cluster.evolve orders (n + 1)).owner? entity = before.owner? entity) := by
  obtain ⟨sound, rfl⟩ := (new_eq_ok_iff settings cluster).mp accepted
  refine ⟨fun on => ?_, fun off => ?_⟩
  · have balanced := (poised_evolve sound few on orders n).loadBalancing_eq.trans on
    refine ⟨?_, placement?_succ sound few on orders n, summary_tickIn sound few on orders n,
      placement?_evolve sound few on orders n⟩
    rw [collected, if_pos balanced]
    exact perm_askedFor sound few on orders n
  · have balanced := (resting_evolve sound few orders n).loadBalancing_eq.trans off
    refine ⟨?_, fun entity => ?_⟩
    · rw [tickIn_of_off balanced]
    · rw [evolve, tickIn_of_off balanced]
      exact owner?_prepared _ _ entity

/-- In tick 40 of the standard scenario the first worker asks for its entity 1 to go to the third, and
the second for its entity 2 to go to the first. -/
theorem tick_refines_placement_standard :
    let cluster := initial .standard
    let orders (_ : Nat) := VisitOrder.ascending
    new .standard = .ok cluster ∧ Scenario.standard.workers.length < UInt32.size ∧
      cluster.placement? orders 39 ⟨1⟩ = some ⟨⟨1⟩, ⟨"ServerWorker1"⟩, false⟩ ∧
      cluster.placement? orders 40 ⟨1⟩ = some ⟨⟨3⟩, ⟨"ServerWorker3"⟩, true⟩ ∧
      cluster.placement? orders 39 ⟨2⟩ = some ⟨⟨2⟩, ⟨"ServerWorker2"⟩, false⟩ ∧
      cluster.placement? orders 40 ⟨2⟩ = some ⟨⟨1⟩, ⟨"ServerWorker1"⟩, true⟩ ∧
      ((cluster.evolve orders 39).tickIn .ascending).1 = ⟨2, 2, 0⟩ := by
  intro cluster orders
  have few : Scenario.standard.workers.length < UInt32.size := by decide
  obtain ⟨_, step, summary, along⟩ := (tick_refines_placement new_standard few orders 39).1 rfl
  -- the scripts alone say where the two are after tick 39, and the step says where they go
  have first : cluster.placement? orders 39 ⟨1⟩ = some ⟨⟨1⟩, ⟨"ServerWorker1"⟩, false⟩ :=
    (along ⟨1⟩).trans (by decide +kernel)
  have second : cluster.placement? orders 39 ⟨2⟩ = some ⟨⟨2⟩, ⟨"ServerWorker2"⟩, false⟩ :=
    (along ⟨2⟩).trans (by decide +kernel)
  refine ⟨new_standard, few, first, (step ⟨1⟩).trans ?_, second, (step ⟨2⟩).trans ?_,
    summary.trans (by decide +kernel)⟩
  · rw [first]
    decide +kernel
  · rw [second]
    decide +kernel

end Handover.Cluster
