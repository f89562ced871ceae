import Handover.Proofs.Cluster.Phases
import Handover.Proofs.Translation
import Mathlib.Algebra.Group.Nat.Defs
import Mathlib.Data.List.Nodup

/-! # The entities that stand for workers

The mapping of a cluster gives every worker an entity that stands for it, numbered from
`firstWorkerEntity` in the order of the scenario.  No two workers get the same one, whatever happens to
the cluster later.

No check of a scenario looks at this range of numbers.  A scenario that lists one of them can be run,
and then the entity stands for a worker as well (`listed_entity_stands_for_worker`).
-/

namespace Handover.Cluster

/-! ## The numbers -/

/-- The entity that stands for the worker at a place of the scenario. -/
def workerEntity (place : Nat) : EntityId := ⟨.ofNat (firstWorkerEntity + place)⟩

/-- The entities that stand for the workers, in their order. -/
def workerEntities (cluster : Cluster) : List EntityId :=
  cluster.mapping.entries.map (·.workerEntity)

variable {settings : Settings} {place count : Nat}

theorem toInt_workerEntity (fits : firstWorkerEntity + place < 2 ^ 63) :
    (workerEntity place).val.toInt = (firstWorkerEntity + place : Nat) :=
  Int64.toInt_ofNat_of_lt fits

/-- An entity stands for one of so many workers exactly if its number is in their range. -/
theorem mem_map_workerEntity_iff (fits : firstWorkerEntity + count ≤ 2 ^ 63) (entity : EntityId) :
    entity ∈ (List.range count).map workerEntity ↔
      (firstWorkerEntity : Nat) ≤ entity.val.toInt ∧
        entity.val.toInt < (firstWorkerEntity + count : Nat) := by
  rw [List.mem_map]
  constructor
  · rintro ⟨place, listed, rfl⟩
    have bound := List.mem_range.mp listed
    rw [toInt_workerEntity (by omega)]
    omega
  · rintro ⟨above, below⟩
    obtain ⟨place, number⟩ := Int.eq_ofNat_of_zero_le (Int.sub_nonneg.mpr above)
    have bound : place < count := by omega
    have same : (workerEntity place).val.toInt = entity.val.toInt := by
      rw [toInt_workerEntity (by omega)]
      omega
    exact ⟨place, List.mem_range.mpr bound, congrArg EntityId.mk (Int64.toInt_inj.mp same)⟩

theorem nodup_map_workerEntity (fits : firstWorkerEntity + count ≤ 2 ^ 63) :
    ((List.range count).map workerEntity).Nodup := by
  refine List.nodup_range.map_on fun place listed place' listed' same => ?_
  have bound := List.mem_range.mp listed
  have bound' := List.mem_range.mp listed'
  have numbers := congrArg (fun entity : EntityId => entity.val.toInt) same
  simp only [toInt_workerEntity (show firstWorkerEntity + place < 2 ^ 63 by omega),
    toInt_workerEntity (show firstWorkerEntity + place' < 2 ^ 63 by omega)] at numbers
  omega

/-! ## The mapping -/

theorem workerEntities_initial (settings : Settings) :
    (initial settings).workerEntities =
      (List.range settings.scenario.workers.length).map workerEntity := by
  refine List.ext_getElem (by simp [workerEntities, initial, mappingOf, MappingUpdate.ofWorkers])
    fun place _ _ => ?_
  simp [workerEntities, initial, mappingOf, MappingUpdate.ofWorkers, workerEntity]

/-- No tick renumbers the workers. -/
theorem workerEntities_evolve (cluster : Cluster) (orders : Nat → VisitOrder) (n : Nat) :
    (cluster.evolve orders n).workerEntities = cluster.workerEntities :=
  congrArg (fun plan => plan.mapping.entries.map MappingEntry.workerEntity)
    (cluster.plan_evolve orders n)

/-! ## The entities of a run -/

/-- In every run of a cluster each worker has an entity of its own that stands for it, and these entities
are the ones whose numbers follow on from `firstWorkerEntity`, one for each worker.  They are kept apart
from the entities of the scenario exactly if it lists none of these numbers.

(The numbers fit as long as the names of the workers fit into any memory.) -/
theorem mem_workerEntities_evolve_iff (settings : Settings) (cluster : Cluster)
    (accepted : new settings = .ok cluster)
    (fits : firstWorkerEntity + settings.scenario.workers.length ≤ 2 ^ 63)
    (orders : Nat → VisitOrder) (n : Nat) :
    let entities := (cluster.evolve orders n).workerEntities
    entities.length = settings.scenario.workers.length ∧ entities.Nodup ∧
      (∀ entity, entity ∈ entities ↔ (firstWorkerEntity : Nat) ≤ entity.val.toInt ∧
        entity.val.toInt < (firstWorkerEntity + settings.scenario.workers.length : Nat)) ∧
      ((∀ seed ∈ settings.scenario.entities, seed.id ∉ entities) ↔
        ∀ seed ∈ settings.scenario.entities, seed.id.val.toInt < (firstWorkerEntity : Nat) ∨
          (firstWorkerEntity + settings.scenario.workers.length : Nat) ≤ seed.id.val.toInt) := by
  intro entities
  -- no tick changes the mapping, so the numbers are those of the start
  have numbered : entities =
      (List.range settings.scenario.workers.length).map workerEntity := by
    obtain ⟨_, rfl⟩ := (new_eq_ok_iff settings cluster).mp accepted
    exact (workerEntities_evolve _ orders n).trans (workerEntities_initial settings)
  have range (entity : EntityId) : entity ∈ entities ↔
      (firstWorkerEntity : Nat) ≤ entity.val.toInt ∧
        entity.val.toInt < (firstWorkerEntity + settings.scenario.workers.length : Nat) := by
    rw [numbered, mem_map_workerEntity_iff fits]
  refine ⟨?_, ?_, range, ?_⟩
  · rw [numbered, List.length_map, List.length_range]
  · rw [numbered]
    exact nodup_map_workerEntity fits
  · refine forall₂_congr fun seed _ => ?_
    rw [range]
    omega

theorem mem_workerEntities_evolve_iff_standard :
    new .standard = .ok (initial .standard) ∧
      firstWorkerEntity + Settings.standard.scenario.workers.length ≤ 2 ^ 63 ∧
      ∀ seed ∈ Settings.standard.scenario.entities,
        seed.id ∉ ((initial .standard).evolve (fun _ => .ascending) 60).workerEntities := by
  have fits : firstWorkerEntity + Settings.standard.scenario.workers.length ≤ 2 ^ 63 := by decide
  have low : ∀ seed ∈ Settings.standard.scenario.entities,
      seed.id.val.toInt < (firstWorkerEntity : Nat) ∨
        (firstWorkerEntity + Settings.standard.scenario.workers.length : Nat) ≤
          seed.id.val.toInt := by decide
  obtain ⟨_, _, _, apart⟩ := mem_workerEntities_evolve_iff .standard (initial .standard)
    new_standard fits (fun _ => .ascending) 60
  exact ⟨new_standard, fits, apart.mpr low⟩

/-! ## A scenario in the way -/

/-- One worker and one entity, whose number is that of the first worker. -/
def crowded : Settings where
  logLevel := "info"
  loadBalancing := .standard
  coordination := ⟨30, 1, 30, false⟩
  scenario := {
    workers := [⟨"A"⟩]
    entities := [⟨⟨10000⟩, ⟨1⟩, [100]⟩]
    intentChanges := []
    restarts := [] }

/-- A scenario may list an entity that stands for a worker. -/
theorem listed_entity_stands_for_worker :
    ∃ cluster, new crowded = .ok cluster ∧
      ∃ entry ∈ cluster.mapping.entries, ∃ seed ∈ crowded.scenario.entities,
        entry.workerEntity = seed.id :=
  ⟨initial crowded, rfl, ⟨⟨1⟩, ⟨"A"⟩, ⟨10000⟩⟩, by decide, ⟨⟨10000⟩, ⟨1⟩, [100]⟩, by decide, rfl⟩

end Handover.Cluster
