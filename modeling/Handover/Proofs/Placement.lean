import Handover.Proofs.Translation

/-! # Ownership without messages

Seen from afar, where an entity is depends on three values: the virtual worker it is meant for, its
owner, and whether it came to that owner in the last tick.  `Placement.next` says what a tick with load
balancing makes of them, from the scripts alone; views, inboxes, queues and translators do not occur.
-/

namespace Handover

namespace Scenario

/-- The changes of an entity's intent that are scripted for a tick, in the order of the script. -/
def changesAt (scenario : Scenario) (tick : Nat) (entity : EntityId) : List IntentChange :=
  scenario.intentChanges.filter fun change => change.tick.toNat = tick ∧ change.entity = entity

def restartsAt (scenario : Scenario) (tick : Nat) (worker : WorkerName) : Bool :=
  scenario.restarts.any fun restart => restart.tick.toNat = tick ∧ restart.worker = worker

def serves (scenario : Scenario) (id : VirtualWorkerId) : Prop :=
  1 ≤ id.val.toNat ∧ id.val.toNat ≤ scenario.workers.length

instance (scenario : Scenario) (id : VirtualWorkerId) : Decidable (scenario.serves id) :=
  inferInstanceAs (Decidable (_ ∧ _))

theorem exists_worker?_of_serves {scenario : Scenario} {id : VirtualWorkerId}
    (served : scenario.serves id) : ∃ worker, scenario.worker? id = some worker :=
  Option.isSome_iff_exists.mp ((scenario.worker?_isSome_iff id).mpr served)

theorem serves_of_worker? {scenario : Scenario} {id : VirtualWorkerId} {worker : WorkerName}
    (served : scenario.worker? id = some worker) : scenario.serves id :=
  (scenario.worker?_isSome_iff id).mp (by rw [served]; rfl)

end Scenario

/-- Whether the processes look again at all their entities in a tick. -/
def Settings.rescansAt (settings : Settings) (tick : Nat) : Prop :=
  0 < settings.coordination.rescanInterval.toNat ∧
    settings.coordination.rescanInterval.toNat ∣ tick

instance (settings : Settings) (tick : Nat) : Decidable (settings.rescansAt tick) :=
  inferInstanceAs (Decidable (_ ∧ _))

/-- What the further way of an entity depends on, between two ticks. -/
structure Placement where
  intent : VirtualWorkerId
  owner : WorkerName
  /-- Whether the entity came to its owner in the last tick. -/
  arrived : Bool
deriving DecidableEq

namespace Placement

/-- The intent after the changes scripted for a tick, of which the last one counts. -/
def nextIntent (settings : Settings) (tick : Nat) (entity : EntityId) (placement : Placement) :
    VirtualWorkerId :=
  (settings.scenario.changesAt tick entity).foldl (fun _ change => change.intent) placement.intent

/-- Whether something in a tick, or in the tick before it, makes the owner look at the entity. -/
def triggered (settings : Settings) (tick : Nat) (entity : EntityId) (placement : Placement) : Prop :=
  tick = 1 ∨ settings.scenario.changesAt tick entity ≠ [] ∨ settings.rescansAt tick ∨
    placement.arrived = true

/-- Whether the owner asks for the entity to be handed over in a tick: it is meant for some worker,
the owner does not restart, and something makes it look at the entity. -/
def asked (settings : Settings) (tick : Nat) (entity : EntityId) (placement : Placement) : Prop :=
  settings.scenario.serves (placement.nextIntent settings tick entity) ∧
    settings.scenario.restartsAt tick placement.owner = false ∧
    placement.triggered settings tick entity

instance (settings : Settings) (tick : Nat) (entity : EntityId) (placement : Placement) :
    Decidable (placement.triggered settings tick entity) :=
  inferInstanceAs (Decidable (_ ∨ _))

instance (settings : Settings) (tick : Nat) (entity : EntityId) (placement : Placement) :
    Decidable (placement.asked settings tick entity) :=
  inferInstanceAs (Decidable (_ ∧ _))

/-- Whether the owner is not the worker that the entity is meant for after the changes of a tick. -/
def displaced (settings : Settings) (tick : Nat) (entity : EntityId) (placement : Placement) : Prop :=
  settings.scenario.worker? (placement.nextIntent settings tick entity) ≠ some placement.owner

instance (settings : Settings) (tick : Nat) (entity : EntityId) (placement : Placement) :
    Decidable (placement.displaced settings tick entity) :=
  inferInstanceAs (Decidable (_ ≠ _))

/-- The placement after a tick: an entity that is asked for goes to the worker it is meant for, and
every other one stays. -/
def next (settings : Settings) (tick : Nat) (entity : EntityId) (placement : Placement) :
    Placement :=
  let intent := placement.nextIntent settings tick entity
  let owner :=
    if placement.asked settings tick entity then
      (settings.scenario.worker? intent).getD placement.owner
    else placement.owner
  ⟨intent, owner, owner ≠ placement.owner⟩

/-- Where an entity is after so many ticks.  At the start the first worker owns every entity, and none
has arrived. -/
def after (settings : Settings) (seed : EntitySeed) : Nat → Placement
  | 0 => ⟨seed.intent, settings.scenario.workers.headD .nobody, false⟩
  | n + 1 => (after settings seed n).next settings (n + 1) seed.id

variable {settings : Settings} {tick : Nat} {entity : EntityId} {placement : Placement}

theorem intent_next (settings : Settings) (tick : Nat) (entity : EntityId) (placement : Placement) :
    (placement.next settings tick entity).intent = placement.nextIntent settings tick entity := rfl

theorem arrived_next (settings : Settings) (tick : Nat) (entity : EntityId) (placement : Placement) :
    (placement.next settings tick entity).arrived =
      decide ((placement.next settings tick entity).owner ≠ placement.owner) := rfl

theorem owner_next_of_asked (asked : placement.asked settings tick entity) {worker : WorkerName}
    (served : settings.scenario.worker? (placement.nextIntent settings tick entity) =
      some worker) :
    (placement.next settings tick entity).owner = worker := by
  rw [next, if_pos asked, served]
  rfl

theorem owner_next_of_not_asked (idle : ¬ placement.asked settings tick entity) :
    (placement.next settings tick entity).owner = placement.owner := by
  rw [next, if_neg idle]

/-- Without a rescan it is the scripts, the arrival or the start that make the owner look. -/
theorem decide_triggered_of_not_rescansAt {n : Nat} (noRescan : ¬ settings.rescansAt (n + 1))
    (entity : EntityId) (placement : Placement) :
    decide (placement.triggered settings (n + 1) entity) =
      (decide (settings.scenario.changesAt (n + 1) entity ≠ []) ||
        (decide (n = 0) || placement.arrived)) := by
  have first : n + 1 = 1 ↔ n = 0 := by omega
  rw [Bool.eq_iff_iff, decide_eq_true_iff, Bool.or_eq_true, Bool.or_eq_true, decide_eq_true_iff,
    decide_eq_true_iff, triggered, first]
  constructor
  · rintro (start | changed | rescan | arrived)
    · exact .inr (.inl start)
    · exact .inl changed
    · exact absurd rescan noRescan
    · exact .inr (.inr arrived)
  · rintro (changed | start | arrived)
    · exact .inr (.inl changed)
    · exact .inl start
    · exact .inr (.inr (.inr arrived))

/-! ## Misplaced entities -/

/-- The entity is meant for some worker, but not for its owner. -/
def Astray (scenario : Scenario) (placement : Placement) : Prop :=
  scenario.serves placement.intent ∧ scenario.worker? placement.intent ≠ some placement.owner

theorem not_astray_next (asked : placement.asked settings tick entity) :
    ¬ (placement.next settings tick entity).Astray settings.scenario := by
  rintro ⟨_, elsewhere⟩
  obtain ⟨worker, served⟩ := Scenario.exists_worker?_of_serves asked.1
  exact elsewhere (served.trans (congrArg some (owner_next_of_asked asked served).symm))

/-- Along a run, an entity is astray only if its owner restarted in some tick and since then neither a
change of its intent nor a rescan was due. -/
theorem exists_restart_of_astray (placed : Nat → Option Placement)
    (step : ∀ n, placed (n + 1) = (placed n).map (·.next settings (n + 1) entity))
    {n : Nat} (positive : 1 ≤ n) {placement : Placement} (here : placed n = some placement)
    (astray : placement.Astray settings.scenario) :
    ∃ t, 1 ≤ t ∧ t ≤ n ∧ settings.scenario.restartsAt t placement.owner = true ∧
      ∀ k, t < k → k ≤ n →
        settings.scenario.changesAt k entity = [] ∧ ¬ settings.rescansAt k := by
  induction n generalizing placement with
  | zero => omega
  | succ n ih =>
    rw [step, Option.map_eq_some_iff] at here
    obtain ⟨before, here, rfl⟩ := here
    have idle : ¬ before.asked settings (n + 1) entity := fun asked => not_astray_next asked astray
    have stays := owner_next_of_not_asked idle
    rw [stays]
    by_cases restarts : settings.scenario.restartsAt (n + 1) before.owner = true
    · exact ⟨n + 1, by omega, Nat.le_refl _, restarts, fun k later earlier => by omega⟩
    · -- nothing made the owner look at the entity, so it was astray one tick before
      have quiet : ¬ before.triggered settings (n + 1) entity := fun triggered =>
        idle ⟨astray.1, Bool.eq_false_iff.mpr restarts, triggered⟩
      obtain ⟨notFirst, quiet⟩ := not_or.mp quiet
      obtain ⟨unchanged, quiet⟩ := not_or.mp quiet
      obtain ⟨noRescan, _⟩ := not_or.mp quiet
      have noChange := Decidable.of_not_not unchanged
      have sameIntent : (before.next settings (n + 1) entity).intent = before.intent := by
        rw [intent_next, nextIntent, noChange, List.foldl_nil]
      rw [Astray, sameIntent, stays] at astray
      obtain ⟨t, first, bound, restarted, since⟩ := ih (by omega) here astray
      refine ⟨t, first, by omega, restarted, fun k later earlier => ?_⟩
      by_cases last : k = n + 1
      · subst last
        exact ⟨noChange, noRescan⟩
      · exact since k later (by omega)

end Placement

end Handover
