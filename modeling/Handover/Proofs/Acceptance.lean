import Handover.Cluster.Basic
import Handover.Proofs.Rearrangement

/-! # Scenarios that can be run

The checks of a scenario read its lists from the start, carry the names they have met along, and stop
at the first fault.  `Scenario.Sound` says what they ask for without an order of reading
(`fault?_eq_none_iff`).  A cluster comes from sound settings only, and from them it always does
(`new_eq_ok_iff`).
-/

namespace Handover

namespace Scenario

/-- What a scenario has to meet to be run. -/
structure Sound (scenario : Scenario) : Prop where
  workers_ne_nil : scenario.workers ≠ []
  workers_valid : ∀ worker ∈ scenario.workers, worker.isValid
  workers_nodup : scenario.workers.Nodup
  entities_valid : ∀ seed ∈ scenario.entities, seed.id.isValid
  entities_nodup : (scenario.entities.map (·.id)).Nodup
  changes_listed : ∀ change ∈ scenario.intentChanges, change.entity ∈ scenario.entities.map (·.id)
  restarts_listed : ∀ restart ∈ scenario.restarts, restart.worker ∈ scenario.workers

/-! ## The checks of the four lists -/

theorem workerFault?_eq_none_iff (before workers : List WorkerName) :
    workerFault? before workers = none ↔
      (∀ worker ∈ workers, worker.isValid) ∧ workers.Nodup ∧ ∀ worker ∈ workers, worker ∉ before := by
  induction workers generalizing before with
  | nil => simp [workerFault?]
  | cons worker workers ih =>
    by_cases valid : worker.isValid = true
    · by_cases repeated : worker ∈ before
      · simp [workerFault?, valid, repeated]
      · -- the head joins the names met before, which is how the tail is kept from repeating it
        rw [List.forall_mem_cons, List.forall_mem_cons, List.nodup_cons]
        simp only [workerFault?, valid, repeated, ih, Bool.not_true, Bool.false_eq_true, if_false,
          List.mem_cons, not_or, not_false_eq_true, true_and]
        constructor
        · rintro ⟨tailValid, tailNodup, fresh⟩
          exact ⟨tailValid, ⟨fun member => (fresh worker member).1 rfl, tailNodup⟩,
            fun w member => (fresh w member).2⟩
        · rintro ⟨tailValid, ⟨absent, tailNodup⟩, fresh⟩
          refine ⟨tailValid, tailNodup, fun w member => ⟨?_, fresh w member⟩⟩
          rintro rfl
          exact absent member
    · simp [workerFault?, valid]

theorem entityFault?_eq_none_iff (before : List EntityId) (seeds : List EntitySeed) :
    entityFault? before seeds = none ↔
      (∀ seed ∈ seeds, seed.id.isValid) ∧ (seeds.map (·.id)).Nodup ∧
        ∀ seed ∈ seeds, seed.id ∉ before := by
  induction seeds generalizing before with
  | nil => simp [entityFault?]
  | cons seed seeds ih =>
    by_cases valid : seed.id.isValid = true
    · by_cases repeated : seed.id ∈ before
      · -- a repetition stops the check, and no list with it is sound
        simp [entityFault?, valid, repeated]
      · rw [List.forall_mem_cons, List.forall_mem_cons, List.map_cons, List.nodup_cons]
        simp only [entityFault?, valid, repeated, ih, Bool.not_true, Bool.false_eq_true, if_false,
          List.mem_cons, not_or, not_false_eq_true, true_and]
        constructor
        · rintro ⟨tailValid, tailNodup, fresh⟩
          refine ⟨tailValid, ⟨fun member => ?_, tailNodup⟩, fun s member => (fresh s member).2⟩
          obtain ⟨s, member, same⟩ := List.mem_map.mp member
          exact (fresh s member).1 same
        · rintro ⟨tailValid, ⟨absent, tailNodup⟩, fresh⟩
          refine ⟨tailValid, tailNodup, fun s member => ⟨fun same => absent ?_, fresh s member⟩⟩
          exact List.mem_map.mpr ⟨s, member, same⟩
    · simp [entityFault?, valid]

theorem changeFault?_eq_none_iff (scenario : Scenario) :
    scenario.changeFault? = none ↔
      ∀ change ∈ scenario.intentChanges, change.entity ∈ scenario.entities.map (·.id) := by
  simp [changeFault?]

theorem restartFault?_eq_none_iff (scenario : Scenario) :
    scenario.restartFault? = none ↔
      ∀ restart ∈ scenario.restarts, restart.worker ∈ scenario.workers := by
  simp [restartFault?]

theorem workersFault?_eq_none_iff (scenario : Scenario) :
    scenario.workersFault? = none ↔
      scenario.workers ≠ [] ∧ (∀ worker ∈ scenario.workers, worker.isValid) ∧
        scenario.workers.Nodup := by
  by_cases empty : scenario.workers = []
  · simp [workersFault?, empty]
  · simp [workersFault?, empty, workerFault?_eq_none_iff]

/-! ## Acceptance -/

theorem fault?_eq_none_iff (scenario : Scenario) : scenario.fault? = none ↔ scenario.Sound := by
  simp only [fault?, Option.orElse_eq_orElse, Option.orElse_eq_or, Option.or_eq_none_iff]
  rw [workersFault?_eq_none_iff, entityFault?_eq_none_iff, changeFault?_eq_none_iff,
    restartFault?_eq_none_iff]
  constructor
  · rintro ⟨⟨nonempty, valid, nodup⟩, ⟨idsValid, idsNodup, _⟩, changes, restarts⟩
    exact ⟨nonempty, valid, nodup, idsValid, idsNodup, changes, restarts⟩
  · intro sound
    exact ⟨⟨sound.workers_ne_nil, sound.workers_valid, sound.workers_nodup⟩,
      ⟨sound.entities_valid, sound.entities_nodup, by simp⟩, sound.changes_listed,
      sound.restarts_listed⟩

end Scenario

namespace Cluster

theorem new_eq_ok_iff (settings : Settings) (cluster : Cluster) :
    new settings = .ok cluster ↔ settings.scenario.Sound ∧ cluster = initial settings := by
  rw [← Scenario.fault?_eq_none_iff, new]
  cases settings.scenario.fault? with
  | none => simp [eq_comm]
  | some error => simp

theorem new_standard : new .standard = .ok (initial .standard) := rfl

end Cluster

end Handover
