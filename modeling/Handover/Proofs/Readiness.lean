import Handover.Proofs.Identity

/-! # Readiness kept as a flag

A translator is ready if it knows its virtual worker.  It could as well keep a flag for that, which it
sets where it discovers the virtual worker and never clears.  Such a translator (`Flagged`) goes along
with one that keeps no flag through every history of updates, and both find the same workers
(`applyAll_flagged`).  The reserved virtual worker is what might have set them apart: no update makes a
translator discover that one.
-/

namespace Handover.Translator

/-- A translator that keeps beside its virtual worker whether it has discovered one. -/
structure Flagged where
  worker : WorkerName
  strategy : Option Strategy
  ready : Bool
  known : VirtualWorkerId
  map : WorkerMap
deriving DecidableEq

namespace Flagged

def start (worker : WorkerName) (strategy : Option Strategy) : Flagged :=
  ⟨worker, strategy, false, .unassigned, .empty⟩

def accept (flagged : Flagged) (resolution : MappingUpdate.Resolution) : Flagged :=
  let flagged := { flagged with map := resolution.map }
  match resolution.discovered with
  | none => flagged
  | some id =>
    { flagged with known := id, ready := true, strategy := flagged.strategy.map (·.tell id) }

def resolve (flagged : Flagged) (update : MappingUpdate) :
    Except MappingRejection MappingUpdate.Resolution :=
  update.resolve flagged.worker flagged.known

def apply (flagged : Flagged) (update : MappingUpdate) : Flagged :=
  match flagged.resolve update with
  | .ok resolution => flagged.accept resolution
  | .error _ => flagged

def applyAll (flagged : Flagged) (updates : List MappingUpdate) : Flagged :=
  updates.foldl apply flagged

def resolveWorker? (flagged : Flagged) (id : VirtualWorkerId) : Option WorkerName :=
  if flagged.ready then (flagged.map.worker? id).filter (·.isValid) else none

theorem ready_apply (flagged : Flagged) (update : MappingUpdate) (ready : flagged.ready) :
    (flagged.apply update).ready := by
  rw [apply]
  split
  · rw [accept]
    split
    · exact ready
    · rfl
  · exact ready

end Flagged

/-- The translator with its readiness written down. -/
def flagged (translator : Translator) : Flagged :=
  ⟨translator.worker, translator.strategy, translator.isReady, translator.known, translator.map⟩

theorem isValid_of_discovered {update : MappingUpdate} {worker : WorkerName}
    {known id : VirtualWorkerId} {resolution : MappingUpdate.Resolution}
    (resolved : update.resolve worker known = .ok resolution)
    (discovered : resolution.discovered = some id) : id.isValid := by
  obtain ⟨clean, _, rfl⟩ := (update.resolve_eq_ok_iff worker known resolution).mp resolved
  rw [Option.ite_none_left_eq_some] at discovered
  exact clean.isValid_of_virtualWorkerOf discovered.2

theorem accept_flagged (translator : Translator) {resolution : MappingUpdate.Resolution}
    (valid : ∀ id, resolution.discovered = some id → id.isValid) :
    translator.flagged.accept resolution = (translator.accept resolution).flagged := by
  rw [Flagged.accept, accept]
  cases discovered : resolution.discovered with
  | none => rfl
  | some id =>
    -- here the flag is set, and what is discovered makes the translator without a flag ready as well
    simp only [flagged, isReady, valid id discovered]

theorem apply_flagged (translator : Translator) (update : MappingUpdate) :
    translator.flagged.apply update = (translator.apply update).flagged := by
  have same : translator.flagged.resolve update = translator.resolve update := rfl
  rw [Flagged.apply, apply, same]
  cases resolved : translator.resolve update with
  | error rejection => rfl
  | ok resolution =>
    exact translator.accept_flagged fun id discovered => isValid_of_discovered resolved discovered

/-- Through every history of updates both translators know the same, the flag tells whether that is a
virtual worker at all, and once set it stays. -/
theorem applyAll_flagged (worker : WorkerName) (strategy : Option Strategy)
    (history : List MappingUpdate) :
    let now := (start worker strategy).applyAll history
    let kept := (Flagged.start worker strategy).applyAll history
    kept = now.flagged ∧ (∀ id, kept.resolveWorker? id = now.resolveWorker? id) ∧
      ∀ later, now.isReady → (now.applyAll later).isReady := by
  have along (translator : Translator) (updates : List MappingUpdate) :
      translator.flagged.applyAll updates = (translator.applyAll updates).flagged :=
    List.foldl_hom flagged apply_flagged
  intro now kept
  have same : kept = now.flagged := along (start worker strategy) history
  refine ⟨same, fun id => ?_, fun later ready => ?_⟩
  · rw [same]
    rfl
  · have stays : (now.flagged.applyAll later).ready :=
      List.foldlRecOn later _ (motive := fun flagged : Flagged => flagged.ready) ready
        fun flagged set update _ => flagged.ready_apply update set
    rw [along] at stays
    exact stays

end Handover.Translator
