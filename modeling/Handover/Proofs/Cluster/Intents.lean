import Handover.Proofs.Cluster.Convergence

/-! # What the script makes of intents

Of several changes of intent for one tick the one that is listed last counts, and a tick hears of no
changes but its own.  Still the intents can be told from the whole script: that of an entity is the
intent of its latest change so far, and its first intent if there is none (`Scenario.Wants`), in
whatever order the script lists different ticks.

Ticks are counted from 1.  A change for tick 0 is accepted as any other and never played.
-/

namespace Handover

namespace Scenario

/-! ## The latest change -/

/-- The change in a place of the script is one of the entity, for a tick from `first` to `last`. -/
structure Scripted (scenario : Scenario) (entity : EntityId) (first last : Nat) (place : Nat)
    (change : IntentChange) : Prop where
  listed : scenario.intentChanges[place]? = some change
  concerns : change.entity = entity
  since : first ≤ change.tick.toNat
  due : change.tick.toNat ≤ last

/-- The change is the one of the greatest tick, and of those of this tick the one listed last. -/
structure Latest (scenario : Scenario) (entity : EntityId) (first last : Nat) (place : Nat)
    (change : IntentChange) : Prop extends Scripted scenario entity first last place change where
  latest : ∀ place' other, scenario.Scripted entity first last place' other →
    other.tick.toNat < change.tick.toNat ∨ other.tick.toNat = change.tick.toNat ∧ place' ≤ place

/-- The intent of an entity by its latest change in the ticks from `first` to `last`, and as it was at
the start if it has none. -/
def Wants (scenario : Scenario) (first last : Nat) (seed : EntitySeed) (intent : VirtualWorkerId) :
    Prop :=
  (∃ place change, scenario.Latest seed.id first last place change ∧ intent = change.intent) ∨
    (∀ place change, ¬ scenario.Scripted seed.id first last place change) ∧ intent = seed.intent

variable {scenario : Scenario} {entity : EntityId} {first last n place : Nat}
  {change : IntentChange} {seed : EntitySeed} {intent : VirtualWorkerId}

theorem Scripted.mem_changesAt (scripted : scenario.Scripted entity first last place change) :
    change ∈ scenario.changesAt change.tick.toNat entity :=
  List.mem_filter.mpr ⟨List.mem_of_getElem? scripted.listed, by simp [scripted.concerns]⟩

theorem Scripted.mono (scripted : scenario.Scripted entity first n place change) :
    scenario.Scripted entity first (n + 1) place change :=
  { scripted with due := Nat.le_succ_of_le scripted.due }

theorem Scripted.due_or_next (scripted : scenario.Scripted entity first (n + 1) place change) :
    scenario.Scripted entity first n place change ∨ change.tick.toNat = n + 1 := by
  rcases Nat.lt_or_ge n change.tick.toNat with later | due
  · exact .inr (Nat.le_antisymm scripted.due later)
  · exact .inl { scripted with due }

theorem Wants.next_of_none (wants : scenario.Wants first n seed intent)
    (none : scenario.changesAt (n + 1) seed.id = []) :
    scenario.Wants first (n + 1) seed intent := by
  have earlier {place : Nat} {change : IntentChange}
      (scripted : scenario.Scripted seed.id first (n + 1) place change) :
      scenario.Scripted seed.id first n place change := by
    refine scripted.due_or_next.resolve_right fun next => ?_
    have member := scripted.mem_changesAt
    rw [next, none] at member
    cases member
  rcases wants with ⟨place, change, latest, rfl⟩ | ⟨unscripted, rfl⟩
  · refine .inl ⟨place, change, ⟨latest.toScripted.mono, fun place' other scripted => ?_⟩, rfl⟩
    exact latest.latest place' other (earlier scripted)
  · exact .inr ⟨fun place change scripted => unscripted place change (earlier scripted), rfl⟩

/-- The last change of the next tick is the latest of all up to it. -/
theorem latest_of_concat (started : first ≤ n + 1) {changes : List IntentChange}
    (due : scenario.changesAt (n + 1) entity = changes ++ [change]) :
    ∃ place, scenario.Latest entity first (n + 1) place change := by
  obtain ⟨start, rest, script, _, final⟩ := List.filter_eq_append_iff.mp due
  obtain ⟨skipped, after, rfl, _, matched, others⟩ := List.filter_eq_cons_iff.mp final
  rw [List.filter_eq_nil_iff] at others
  obtain ⟨tick, concerns⟩ := of_decide_eq_true matched
  -- nothing that the script lists after this change is for the same entity and the same tick
  have script : scenario.intentChanges = (start ++ skipped) ++ change :: after := by
    rw [script, List.append_assoc]
  have listed : scenario.intentChanges[(start ++ skipped).length]? = some change := by
    rw [script, List.getElem?_append_right (Nat.le_refl _), Nat.sub_self]
    rfl
  refine ⟨_, ⟨listed, concerns, tick ▸ started, Nat.le_of_eq tick⟩, fun place other scripted => ?_⟩
  rcases Nat.lt_or_ge other.tick.toNat (n + 1) with before | late
  · exact .inl (tick ▸ before)
  · have same : other.tick.toNat = n + 1 := Nat.le_antisymm scripted.due late
    refine .inr ⟨same.trans tick.symm, Nat.le_of_not_lt fun beyond => ?_⟩
    have at_place := scripted.listed
    rw [script, List.getElem?_append_right (Nat.le_of_lt beyond)] at at_place
    obtain ⟨k, distance⟩ := Nat.exists_eq_add_of_lt beyond
    rw [show place - (start ++ skipped).length = k + 1 by omega, List.getElem?_cons_succ] at at_place
    exact others other (List.mem_of_getElem? at_place) (decide_eq_true ⟨same, scripted.concerns⟩)

theorem Wants.next (wants : scenario.Wants first n seed intent) (started : first ≤ n + 1) :
    scenario.Wants first (n + 1) seed
      ((scenario.changesAt (n + 1) seed.id).foldl (fun _ change => change.intent) intent) := by
  rcases List.eq_nil_or_concat (scenario.changesAt (n + 1) seed.id) with none |
    ⟨changes, change, due⟩
  · rw [none]
    exact wants.next_of_none none
  · rw [List.concat_eq_append] at due
    obtain ⟨place, latest⟩ := latest_of_concat started due
    rw [due, List.foldl_append]
    exact .inl ⟨place, change, latest, rfl⟩

end Scenario

namespace Cluster

variable {settings : Settings} {cluster : Cluster} {n : Nat}

/-! ## What a tick does to intents -/

/-- The intent of an entity that the report compares with the owner. -/
def intent? (cluster : Cluster) (entity : EntityId) : Option VirtualWorkerId :=
  cluster.entities[entity]?.map (·.intent)

theorem intent?_prepared (cluster : Cluster) (order : VisitOrder) (entity : EntityId) :
    (cluster.prepared order).intent? entity =
      (cluster.intent? entity).map fun intent =>
        ((changesDue cluster.intentChanges (cluster.tick + 1)).filter (·.entity = entity)).foldl
          (fun _ change => change.intent) intent := by
  rw [intent?, entities_prepared, getElem?_setIntents, Option.map_map, intent?, Option.map_map]
  rfl

/-- A request changes who owns an entity, and not what it is meant for. -/
theorem intent?_applyRequest (cluster : Cluster) (issuer : WorkerName) (request : AclRequest)
    (entity : EntityId) :
    (cluster.applyRequest issuer request).value.2.intent? entity = cluster.intent? entity := by
  rcases cluster.value_applyRequest issuer request with same | ⟨state, present, _, _, applied⟩
  · rw [same]
  · rw [applied]
    split
    · rfl
    · by_cases here : request.entity = entity
      · subst here
        rw [handOver_eq, intent?, intent?, present, Std.ExtTreeMap.getElem?_insert_self]
        rfl
      · rw [handOver_eq, intent?, intent?, Std.ExtTreeMap.getElem?_insert,
          if_neg fun same => here (Std.LawfulEqCmp.eq_of_compare same)]

theorem intent?_applyAll (cluster : Cluster) (requests : List (WorkerName × AclRequest))
    (entity : EntityId) :
    (cluster.applyAll requests).intent? entity = cluster.intent? entity :=
  List.foldlRecOn requests _
    (motive := fun after : Cluster => after.intent? entity = cluster.intent? entity) rfl
    fun after same row _ => (after.intent?_applyRequest row.1 row.2 entity).trans same

theorem intent?_tickIn (cluster : Cluster) (order : VisitOrder) (entity : EntityId) :
    (cluster.tickIn order).2.intent? entity =
      (cluster.intent? entity).map fun intent =>
        ((changesDue cluster.intentChanges (cluster.tick + 1)).filter (·.entity = entity)).foldl
          (fun _ change => change.intent) intent := by
  rw [← cluster.intent?_prepared order entity]
  cases balanced : cluster.loadBalancing with
  | false => rw [tickIn_of_off balanced]
  | true =>
    rw [tickIn_of_on balanced, value_coordinate]
    exact (cluster.prepared order).decided.intent?_applyAll _ entity

/-! ## Runs -/

theorem intent?_evolve (sound : settings.scenario.Sound) (orders : Nat → VisitOrder) (n : Nat)
    {seed : EntitySeed} (listed : seed ∈ settings.scenario.entities) :
    ∃ intent, ((initial settings).evolve orders n).intent? seed.id = some intent ∧
      settings.scenario.Wants 1 n seed intent := by
  induction n with
  | zero =>
    refine ⟨seed.intent, ?_, .inr ⟨fun place change scripted => ?_, rfl⟩⟩
    · have found := (find?_key_eq_some_iff sound.entities_nodup seed.id seed).mpr ⟨listed, rfl⟩
      rw [evolve, intent?, getElem?_initial sound, found]
      rfl
    -- no tick has passed, so no change was scripted for one
    · exact absurd (Nat.le_trans scripted.since scripted.due) (Nat.not_succ_le_zero 0)
  | succ n ih =>
    obtain ⟨intent, present, wants⟩ := ih
    have script : ((initial settings).evolve orders n).intentChanges =
        settings.scenario.intentChanges :=
      congrArg Plan.intentChanges ((initial settings).plan_evolve orders n)
    have tick : ((initial settings).evolve orders n).tick = n :=
      ((initial settings).tick_evolve orders n).trans (Nat.zero_add n)
    refine ⟨_, ?_, wants.next (Nat.le_add_left 1 n)⟩
    rw [evolve, intent?_tickIn, present, script, tick, filter_changesDue]
    rfl

/-- After any number of ticks, in whatever orders, the intent of every entity is that of its latest
change scripted for one of these ticks, or its first intent if there is none; it is this intent that
the report compares with the owner.  Changes for tick 0 do not count. -/
theorem intent_by_latest_change {settings : Settings} {cluster : Cluster}
    (accepted : new settings = .ok cluster) (orders : Nat → VisitOrder) (n : Nat)
    (seed : EntitySeed) (listed : seed ∈ settings.scenario.entities) :
    ∃ state, (cluster.evolve orders n).entities[seed.id]? = some state ∧
      settings.scenario.Wants 1 n seed state.intent ∧
      (seed.id ∈ (cluster.evolve orders n).report.misplaced ↔
        (cluster.evolve orders n).mapping.workerOf state.intent ≠ some state.owner) := by
  obtain ⟨sound, rfl⟩ := (new_eq_ok_iff settings cluster).mp accepted
  obtain ⟨_, known, wants⟩ := intent?_evolve sound orders n listed
  obtain ⟨state, present, rfl⟩ := Option.map_eq_some_iff.mp known
  exact ⟨state, present, wants, mem_misplaced present⟩

/-- In the standard scenario the first entity is meant for virtual worker 3 from tick 40 on, and ten
ticks later it is there. -/
theorem intent_by_latest_change_standard :
    let after := (initial .standard).evolve (fun _ => .ascending) 50
    ∃ state, after.entities[(⟨1⟩ : EntityId)]? = some state ∧
      Scenario.standard.Wants 1 50 ⟨⟨1⟩, ⟨1⟩, [100, 101, 102]⟩ state.intent ∧
      state.intent = ⟨3⟩ ∧ state.owner = ⟨"ServerWorker3"⟩ ∧ ⟨1⟩ ∉ after.report.misplaced := by
  intro after
  obtain ⟨state, present, wants, misplaced⟩ := intent_by_latest_change new_standard
    (fun _ => .ascending) 50 ⟨⟨1⟩, ⟨1⟩, [100, 101, 102]⟩ (by decide)
  have found : (after.entities[(⟨1⟩ : EntityId)]?).map (fun state => (state.intent, state.owner)) =
      some (⟨3⟩, ⟨"ServerWorker3"⟩) := by decide +kernel
  have mapped : after.mapping.workerOf ⟨3⟩ = some ⟨"ServerWorker3"⟩ := by decide +kernel
  rw [present] at found
  obtain ⟨intent, owner⟩ := Prod.mk.inj (Option.some.inj found)
  refine ⟨state, present, wants, intent, owner, fun listed => misplaced.mp listed ?_⟩
  rw [intent, owner]
  exact mapped

/-! ## Changes for tick 0 -/

/-- Two workers and one entity, which the script means for the second of them before the first tick. -/
def changedAtOnce : Settings where
  logLevel := "info"
  loadBalancing := ⟨false⟩
  coordination := .standard
  scenario := {
    workers := [⟨"A"⟩, ⟨"B"⟩]
    entities := [⟨⟨1⟩, ⟨1⟩, [100]⟩]
    intentChanges := [⟨0, ⟨1⟩, ⟨2⟩⟩]
    restarts := [] }

/-- A change for tick 0 is accepted, and it is the latest up to the first tick, but it is not played
in that tick. -/
theorem change_at_once_ignored :
    ∃ cluster, new changedAtOnce = .ok cluster ∧
      changedAtOnce.scenario.Latest ⟨1⟩ 0 1 0 ⟨0, ⟨1⟩, ⟨2⟩⟩ ∧
      ∃ state, (cluster.evolve (fun _ => .ascending) 1).entities[(⟨1⟩ : EntityId)]? = some state ∧
        ¬ changedAtOnce.scenario.Wants 0 1 ⟨⟨1⟩, ⟨1⟩, [100]⟩ state.intent := by
  have only {place : Nat} {change : IntentChange}
      (listed : changedAtOnce.scenario.intentChanges[place]? = some change) :
      place = 0 ∧ change = ⟨0, ⟨1⟩, ⟨2⟩⟩ := by
    obtain ⟨first, found⟩ := List.getElem?_eq_some_iff.mp listed
    obtain rfl : place = 0 := Nat.lt_one_iff.mp first
    exact ⟨rfl, found.symm⟩
  have latest : changedAtOnce.scenario.Latest ⟨1⟩ 0 1 0 ⟨0, ⟨1⟩, ⟨2⟩⟩ := by
    refine ⟨⟨rfl, rfl, Nat.le_refl 0, Nat.zero_le 1⟩, fun place other scripted => .inr ?_⟩
    obtain ⟨rfl, rfl⟩ := only scripted.listed
    exact ⟨rfl, Nat.le_refl 0⟩
  refine ⟨initial changedAtOnce, rfl, latest, .ofSeed ⟨⟨1⟩, ⟨1⟩, [100]⟩ ⟨"A"⟩,
    by decide +kernel, ?_⟩
  rintro (⟨place, change, wanted, unchanged⟩ | ⟨unscripted, _⟩)
  · obtain ⟨_, rfl⟩ := only wanted.listed
    cases unchanged
  · exact unscripted 0 _ latest.toScripted

end Cluster

end Handover
