import Handover.Proofs.Cluster.Ownership

/-! # Convergence up to restarts

With load balancing an entity is where it is meant to be after every tick, unless its owner has
restarted: a restarted worker does not know yet who serves which virtual worker, and by the time it
does, what it had queued is gone.  The next change of the entity's intent or the next rescan mends that.
-/

namespace Handover.Cluster

variable {settings : Settings} {cluster : Cluster} {n : Nat}

/-! ## The report of a cluster that rests -/

theorem Resting.intendedOwner?_eq (resting : Resting settings n cluster)
    (few : settings.scenario.workers.length < UInt32.size) (state : EntityState) :
    cluster.intendedOwner? state = settings.scenario.worker? state.intent := by
  have mapping : cluster.mapping = mappingOf settings.scenario.workers :=
    congrArg Plan.mapping resting.plan
  rw [intendedOwner?, mapping, workerOf_mappingOf few]

theorem mem_misplaced {entity : EntityId} {state : EntityState}
    (present : cluster.entities[entity]? = some state) :
    entity ∈ cluster.misplaced ↔ cluster.intendedOwner? state ≠ some state.owner := by
  rw [misplaced, List.mem_map]
  constructor
  · rintro ⟨⟨_, other⟩, member, rfl⟩
    obtain ⟨row, elsewhere⟩ := List.mem_filter.mp member
    have present' := Std.ExtTreeMap.mem_toList_iff_getElem?_eq_some.mp row
    obtain rfl := Option.some.inj (present.symm.trans present')
    exact of_decide_eq_true elsewhere
  · intro elsewhere
    refine ⟨(entity, state), List.mem_filter.mpr ⟨?_, decide_eq_true elsewhere⟩, rfl⟩
    exact Std.ExtTreeMap.mem_toList_iff_getElem?_eq_some.mpr present

theorem Resting.mem_misplaced (resting : Resting settings n cluster)
    (few : settings.scenario.workers.length < UInt32.size) {entity : EntityId} {state : EntityState}
    (present : cluster.entities[entity]? = some state) :
    entity ∈ cluster.misplaced ↔ settings.scenario.worker? state.intent ≠ some state.owner := by
  rw [Cluster.mem_misplaced present, resting.intendedOwner?_eq few]

/-! ## Runs -/

/-- An entity that is misplaced although it need not be has been so since its owner restarted. -/
theorem exists_restart_of_misplaced (sound : settings.scenario.Sound)
    (few : settings.scenario.workers.length < UInt32.size) (on : settings.loadBalancing.enabled = true)
    (orders : Nat → VisitOrder) {n : Nat} (positive : 1 ≤ n) {entity : EntityId}
    {state : EntityState}
    (present : ((initial settings).evolve orders n).entities[entity]? = some state)
    (served : settings.scenario.serves state.intent)
    (elsewhere : settings.scenario.worker? state.intent ≠ some state.owner) :
    ∃ t, 1 ≤ t ∧ t ≤ n ∧ settings.scenario.restartsAt t state.owner = true ∧
      ∀ k, t < k → k ≤ n →
        settings.scenario.changesAt k entity = [] ∧ ¬ settings.rescansAt k := by
  have here : (initial settings).placement? orders n entity =
      some ⟨state.intent, state.owner, (initial settings).arrivedAt orders n entity⟩ := by
    rw [placement?, placed?, present]
    rfl
  have astray : Placement.Astray settings.scenario
      ⟨state.intent, state.owner, (initial settings).arrivedAt orders n entity⟩ :=
    ⟨served, elsewhere⟩
  exact Placement.exists_restart_of_astray
    (fun k => (initial settings).placement? orders k entity)
    (fun k => placement?_succ sound few on orders k entity) positive here astray

/-- In every stretch of ticks as long as the rescan interval there is a rescan. -/
theorem exists_rescan {settings : Settings} {last n : Nat}
    (interval : 0 < settings.coordination.rescanInterval.toNat)
    (late : last + settings.coordination.rescanInterval.toNat ≤ n) :
    ∃ k, last < k ∧ k ≤ n ∧ settings.rescansAt k := by
  have parts := Nat.div_add_mod n settings.coordination.rescanInterval.toNat
  have rest := Nat.mod_lt n interval
  refine ⟨_, ?_, ?_, interval, Nat.dvd_mul_right _ (n / settings.coordination.rescanInterval.toNat)⟩
  · omega
  · omega

/-- With load balancing, an entity is misplaced after a tick although it is meant for some worker only
if its owner restarted, and since then neither a change of its intent nor a rescan was due.  So if no
worker ever restarts every such entity is where it is meant to be; and one rescan interval after the
last restart, whatever changes of intent still follow, the misplaced entities are those meant for
nobody. -/
theorem misplaced_since_restart {settings : Settings} {cluster : Cluster}
    (accepted : new settings = .ok cluster) (few : settings.scenario.workers.length < UInt32.size)
    (on : settings.loadBalancing.enabled = true) (orders : Nat → VisitOrder) :
    (∀ n (entity : EntityId) (state : EntityState), 1 ≤ n →
      (cluster.evolve orders n).entities[entity]? = some state →
      entity ∈ (cluster.evolve orders n).report.misplaced →
      settings.scenario.serves state.intent →
      ∃ t, 1 ≤ t ∧ t ≤ n ∧ settings.scenario.restartsAt t state.owner = true ∧
        ∀ k, t < k → k ≤ n →
          settings.scenario.changesAt k entity = [] ∧ ¬ settings.rescansAt k) ∧
    (settings.scenario.restarts = [] →
      ∀ n (entity : EntityId) (state : EntityState), 1 ≤ n →
        (cluster.evolve orders n).entities[entity]? = some state →
        settings.scenario.serves state.intent →
        settings.scenario.worker? state.intent = some state.owner) ∧
    (∀ last n, 0 < settings.coordination.rescanInterval.toNat →
      (∀ restart ∈ settings.scenario.restarts, restart.tick.toNat ≤ last) →
      last + settings.coordination.rescanInterval.toNat ≤ n →
      (cluster.evolve orders n).report.misplaced =
        ((cluster.evolve orders n).entities.toList.filter fun (_, state) =>
          ¬ settings.scenario.serves state.intent).map (·.1)) := by
  obtain ⟨sound, rfl⟩ := (new_eq_ok_iff settings cluster).mp accepted
  refine ⟨fun n entity state positive present member served => ?_,
    fun none n entity state positive present served => ?_,
    fun last n interval restarts late => ?_⟩
  · have resting := resting_evolve sound few orders n
    have elsewhere := (resting.mem_misplaced few present).mp member
    exact exists_restart_of_misplaced sound few on orders positive present served elsewhere
  · refine Decidable.byContradiction fun elsewhere => ?_
    obtain ⟨t, _, _, restarted, _⟩ :=
      exists_restart_of_misplaced sound few on orders positive present served elsewhere
    simp [Scenario.restartsAt, none] at restarted
  · -- after the last restart there was time for a rescan, which has mended what could be
    have resting := resting_evolve sound few orders n
    show ((initial settings).evolve orders n).misplaced = _
    rw [misplaced]
    refine congrArg (List.map _) (List.filter_congr fun row member => ?_)
    have present := Std.ExtTreeMap.mem_toList_iff_getElem?_eq_some.mp member
    show decide (((initial settings).evolve orders n).intendedOwner? row.2 ≠ some row.2.owner) =
      decide (¬ settings.scenario.serves row.2.intent)
    rw [resting.intendedOwner?_eq few]
    refine decide_eq_decide.mpr ⟨fun elsewhere served => ?_, fun unserved owned => ?_⟩
    · obtain ⟨t, _, _, restarted, since⟩ := exists_restart_of_misplaced sound few on orders
        (by omega) present served elsewhere
      obtain ⟨restart, scripted, due⟩ := List.any_eq_true.mp restarted
      have bound := restarts restart scripted
      have due : restart.tick.toNat = t := (of_decide_eq_true due).1
      obtain ⟨k, after, before, rescan⟩ := exists_rescan interval late
      exact (since k (by omega) before).2 rescan
    · exact unserved (Scenario.serves_of_worker? owned)

/-- The standard scenario has rescans.  After tick 60 entity 5 is misplaced, as its owner restarted in
that tick; the rescan of tick 90 puts it in its place. -/
theorem misplaced_since_restart_standard :
    let after n := (initial .standard).evolve (fun _ => .ascending) n
    new .standard = .ok (initial .standard) ∧
      (after 60).report.misplaced = [⟨5⟩] ∧
      (∃ t, 1 ≤ t ∧ t ≤ 60 ∧ Scenario.standard.restartsAt t ⟨"ServerWorker2"⟩ = true ∧
        ∀ k, t < k → k ≤ 60 →
          Scenario.standard.changesAt k ⟨5⟩ = [] ∧ ¬ Settings.standard.rescansAt k) ∧
      (after 90).report.misplaced =
        ((after 90).entities.toList.filter
          fun (_, state) => ¬ Scenario.standard.serves state.intent).map (·.1) ∧
      (after 90).report.misplaced = [] := by
  intro after
  obtain ⟨sinceRestart, _, afterRescan⟩ :=
    misplaced_since_restart new_standard (by decide) rfl (fun _ => .ascending)
  have misplaced : (after 60).report.misplaced = [⟨5⟩] := by decide +kernel
  refine ⟨new_standard, misplaced, ?_, afterRescan 60 90 (by decide) (by decide) (by decide),
    by decide +kernel⟩
  exact sinceRestart 60 ⟨5⟩ (.ofSeed ⟨⟨5⟩, ⟨1⟩, [100, 101, 102]⟩ ⟨"ServerWorker2"⟩) (by decide)
    (by decide +kernel) (misplaced ▸ List.mem_singleton_self _) (by decide)

end Handover.Cluster
