import Handover.Proofs.Acceptance

/-! # The mapping of a cluster and what its translators make of it

The mapping in force gives virtual workers 1, 2, … to the workers of the scenario, in order.  As long
as there are fewer than 2^32 workers the numbers do not run into each other, so the three ways to read
the mapping, namely the first row of a virtual worker, the last row of it, and its place in the
scenario (`Scenario.row?`), agree.  A worker is told its own place (`virtualWorkerOf_mappingOf`).

A translator that does not know its virtual worker learns it from the mapping in force and is ready
from then on (`Translator.ready_apply`).  From the mapping without its own row, which it gets right
after a restart, it learns nothing (`Translator.unknown_apply_without`).
-/

namespace Handover

/-- The worker that serves a virtual worker: they are numbered from 1 in the order of the scenario. -/
def Scenario.worker? (scenario : Scenario) (id : VirtualWorkerId) : Option WorkerName :=
  if 1 ≤ id.val.toNat then scenario.workers[id.val.toNat - 1]? else none

theorem Scenario.worker?_isSome_iff (scenario : Scenario) (id : VirtualWorkerId) :
    (scenario.worker? id).isSome ↔
      1 ≤ id.val.toNat ∧ id.val.toNat ≤ scenario.workers.length := by
  rw [worker?]
  split
  case isTrue positive => simp [positive]; omega
  case isFalse zero => simp [zero]

theorem Scenario.mem_workers_of_worker? {scenario : Scenario} {id : VirtualWorkerId}
    {worker : WorkerName} (served : scenario.worker? id = some worker) :
    worker ∈ scenario.workers := by
  rw [worker?] at served
  split at served
  · exact List.mem_of_getElem? served
  · cases served

theorem Scenario.isValid_of_worker? {scenario : Scenario} {id : VirtualWorkerId}
    {worker : WorkerName} (served : scenario.worker? id = some worker) : id.isValid := by
  rw [VirtualWorkerId.isValid, decide_eq_true_iff]
  rintro rfl
  cases served

/-- The worker that serves a virtual worker, with the entity that stands for it. -/
def Scenario.row? (scenario : Scenario) (id : VirtualWorkerId) : Option (WorkerName × EntityId) :=
  (scenario.worker? id).map fun worker =>
    (worker, ⟨.ofNat (Cluster.firstWorkerEntity + (id.val.toNat - 1))⟩)

@[simp] theorem Scenario.map_row? (scenario : Scenario) (id : VirtualWorkerId) :
    (scenario.row? id).map (·.1) = scenario.worker? id := by
  rw [row?, Option.map_map]
  exact Option.map_id'

/-! ## Looking up rows -/

/-- In the map of a list of rows the last row of each virtual worker counts. -/
theorem WorkerMap.rows_ofEntries (entries : List MappingEntry) (id : VirtualWorkerId) :
    (ofEntries entries).rows[id]? =
      (entries.reverse.find? (·.virtualWorker = id)).map fun entry =>
        (entry.worker, entry.workerEntity) := by
  have general (map : WorkerMap) :
      (entries.foldl insert map).rows[id]? =
        ((entries.reverse.find? (·.virtualWorker = id)).map fun entry =>
          (entry.worker, entry.workerEntity)).or map.rows[id]? := by
    induction entries generalizing map with
    | nil => rfl
    | cons first entries ih =>
      rw [List.foldl_cons, ih, List.reverse_cons, List.find?_append]
      cases entries.reverse.find? (·.virtualWorker = id) with
      | some entry => rfl
      | none =>
        by_cases here : first.virtualWorker = id <;>
          simp [insert, Std.ExtTreeMap.getElem?_insert, here]
  simpa [ofEntries, empty] using general empty

/-- Where no virtual worker has two rows, the last row of it is the only one. -/
theorem WorkerMap.rows_ofEntries_eq_some_iff {entries : List MappingEntry}
    (distinct : (entries.map (·.virtualWorker)).Nodup) (id : VirtualWorkerId)
    (row : WorkerName × EntityId) :
    (ofEntries entries).rows[id]? = some row ↔
      ∃ entry ∈ entries, entry.virtualWorker = id ∧ (entry.worker, entry.workerEntity) = row := by
  have reversed : (entries.reverse.map (·.virtualWorker)).Nodup := by
    rw [List.map_reverse, (List.reverse_perm _).nodup_iff]
    exact distinct
  rw [rows_ofEntries, Option.map_eq_some_iff]
  simp only [find?_key_eq_some_iff reversed, List.mem_reverse, and_assoc]

/-- An update without the rows of a process does not give it a virtual worker. -/
theorem MappingUpdate.virtualWorkerOf_without (update : MappingUpdate) (worker : WorkerName) :
    (update.without worker).virtualWorkerOf worker = none := by
  simp [virtualWorkerOf, without]

/-! ## The mapping in force -/

namespace Cluster

theorem mem_entries_mappingOf {workers : List WorkerName} {entry : MappingEntry} :
    entry ∈ (mappingOf workers).entries ↔
      ∃ i worker, workers[i]? = some worker ∧
        entry = ⟨⟨.ofNat (i + 1)⟩, worker, ⟨.ofNat (firstWorkerEntity + i)⟩⟩ := by
  simp only [mappingOf, MappingUpdate.ofWorkers, List.mapIdx_mapIdx, List.mem_mapIdx]
  constructor
  · rintro ⟨i, bound, rfl⟩
    exact ⟨i, workers[i], List.getElem?_eq_getElem bound, rfl⟩
  · rintro ⟨i, worker, at_i, rfl⟩
    obtain ⟨bound, rfl⟩ := List.getElem?_eq_some_iff.mp at_i
    exact ⟨i, bound, rfl⟩

theorem toNat_number {n i : Nat} (few : n < UInt32.size) (bound : i < n) :
    (UInt32.ofNat (i + 1)).toNat = i + 1 :=
  UInt32.toNat_ofNat_of_lt (by omega)

theorem nodup_virtualWorkers {workers : List WorkerName} (few : workers.length < UInt32.size) :
    ((mappingOf workers).entries.map (·.virtualWorker)).Nodup := by
  -- the numbers are distinct as naturals, and below 2^32 they stay so as machine words
  rw [List.Nodup, List.pairwise_map, mappingOf, MappingUpdate.ofWorkers, List.mapIdx_mapIdx,
    List.pairwise_iff_getElem]
  intro i j boundI boundJ less
  simp only [List.length_mapIdx] at boundI boundJ
  simp only [List.getElem_mapIdx, Function.comp_apply, ne_eq, VirtualWorkerId.mk.injEq]
  intro same
  have := congrArg UInt32.toNat same
  rw [toNat_number few boundI, toNat_number few boundJ] at this
  omega

/-- The rows of the mapping in force say who serves which virtual worker. -/
theorem row?_eq_some_iff_mem_mappingOf {scenario : Scenario}
    (few : scenario.workers.length < UInt32.size) (id : VirtualWorkerId)
    (row : WorkerName × EntityId) :
    scenario.row? id = some row ↔
      ∃ entry ∈ (mappingOf scenario.workers).entries,
        entry.virtualWorker = id ∧ (entry.worker, entry.workerEntity) = row := by
  rw [Scenario.row?, Option.map_eq_some_iff]
  constructor
  · rintro ⟨worker, served, rfl⟩
    rw [Scenario.worker?] at served
    split at served
    case isFalse => cases served
    case isTrue positive =>
      refine ⟨_, mem_entries_mappingOf.mpr ⟨_, worker, served, rfl⟩, ?_, rfl⟩
      rw [Nat.sub_add_cancel positive, UInt32.ofNat_toNat]
  · rintro ⟨entry, member, rfl, rfl⟩
    obtain ⟨i, worker, at_i, rfl⟩ := mem_entries_mappingOf.mp member
    obtain ⟨bound, _⟩ := List.getElem?_eq_some_iff.mp at_i
    refine ⟨worker, ?_, ?_⟩
    · rw [Scenario.worker?, toNat_number few bound, if_pos (Nat.le_add_left 1 i),
        Nat.add_sub_cancel, at_i]
    · rw [toNat_number few bound, Nat.add_sub_cancel]

theorem workerOf_mappingOf {scenario : Scenario} (few : scenario.workers.length < UInt32.size)
    (id : VirtualWorkerId) :
    (mappingOf scenario.workers).workerOf id = scenario.worker? id := by
  have first : ((mappingOf scenario.workers).entries.find? (·.virtualWorker = id)).map
      (fun entry => (entry.worker, entry.workerEntity)) = scenario.row? id := by
    ext row
    rw [row?_eq_some_iff_mem_mappingOf few, Option.map_eq_some_iff]
    simp only [find?_key_eq_some_iff (nodup_virtualWorkers few), and_assoc]
  rw [← Scenario.map_row?, ← first, Option.map_map]
  rfl

theorem rows_ofEntries_mappingOf {scenario : Scenario}
    (few : scenario.workers.length < UInt32.size) (id : VirtualWorkerId) :
    (WorkerMap.ofEntries (mappingOf scenario.workers).entries).rows[id]? = scenario.row? id := by
  ext row
  rw [row?_eq_some_iff_mem_mappingOf few,
    WorkerMap.rows_ofEntries_eq_some_iff (nodup_virtualWorkers few)]

theorem worker?_ofEntries_mappingOf {scenario : Scenario}
    (few : scenario.workers.length < UInt32.size) (id : VirtualWorkerId) :
    (WorkerMap.ofEntries (mappingOf scenario.workers).entries).worker? id =
      scenario.worker? id := by
  rw [WorkerMap.worker?, rows_ofEntries_mappingOf few, Scenario.map_row?]

theorem isValid_of_mem_mappingOf {scenario : Scenario} (sound : scenario.Sound)
    (few : scenario.workers.length < UInt32.size) {entry : MappingEntry}
    (member : entry ∈ (mappingOf scenario.workers).entries) : entry.isValid := by
  obtain ⟨i, worker, at_i, rfl⟩ := mem_entries_mappingOf.mp member
  obtain ⟨bound, _⟩ := List.getElem?_eq_some_iff.mp at_i
  have named := sound.workers_valid worker (List.mem_of_getElem? at_i)
  have numbered : (⟨UInt32.ofNat (i + 1)⟩ : VirtualWorkerId).isValid := by
    simp only [VirtualWorkerId.isValid, VirtualWorkerId.unassigned, ne_eq, decide_not,
      VirtualWorkerId.mk.injEq, Bool.not_eq_true', decide_eq_false_iff_not]
    intro zero
    have := congrArg UInt32.toNat zero
    rw [toNat_number few bound] at this
    simp at this
  rw [MappingEntry.isValid, numbered, named]
  rfl

/-! ## The row of one worker -/

theorem map_worker_mappingOf (workers : List WorkerName) :
    (mappingOf workers).entries.map (·.worker) = workers := by
  refine List.ext_getElem? fun i => ?_
  simp only [mappingOf, MappingUpdate.ofWorkers, List.getElem?_map, List.getElem?_mapIdx,
    Option.map_map]
  exact Option.map_id'

section

variable {workers : List WorkerName} {worker : WorkerName} {i : Nat}

theorem virtualWorkerOf_mappingOf (distinct : workers.Nodup) (listed : workers[i]? = some worker) :
    (mappingOf workers).virtualWorkerOf worker = some ⟨.ofNat (i + 1)⟩ := by
  rw [← map_worker_mappingOf workers] at distinct
  rw [MappingUpdate.virtualWorkerOf, (find?_key_eq_some_iff distinct worker _).mpr
    ⟨mem_entries_mappingOf.mpr ⟨i, worker, listed, rfl⟩, rfl⟩]
  rfl

theorem worker_eq_iff_of_mem_mappingOf (distinct : workers.Nodup)
    (few : workers.length < UInt32.size) (listed : workers[i]? = some worker) {entry : MappingEntry}
    (member : entry ∈ (mappingOf workers).entries) :
    entry.worker = worker ↔ entry.virtualWorker = ⟨.ofNat (i + 1)⟩ := by
  obtain ⟨j, worker', at_j, rfl⟩ := mem_entries_mappingOf.mp member
  obtain ⟨boundI, _⟩ := List.getElem?_eq_some_iff.mp listed
  obtain ⟨boundJ, _⟩ := List.getElem?_eq_some_iff.mp at_j
  constructor
  · rintro rfl
    rw [(List.getElem?_inj boundJ distinct).mp (at_j.trans listed.symm)]
  · intro same
    -- below 2^32 equal numbers are equal places
    have numbers := congrArg (fun id : VirtualWorkerId => id.val.toNat) same
    simp only [toNat_number few boundI, toNat_number few boundJ, Nat.add_right_cancel_iff] at numbers
    rw [numbers, listed] at at_j
    exact (Option.some.inj at_j).symm

/-- The mapping without the rows of a worker lacks the row of its virtual worker and no other. -/
theorem rows_ofEntries_without {scenario : Scenario} (distinct : scenario.workers.Nodup)
    (few : scenario.workers.length < UInt32.size) (listed : scenario.workers[i]? = some worker)
    (id : VirtualWorkerId) :
    (WorkerMap.ofEntries ((mappingOf scenario.workers).without worker).entries).rows[id]? =
      if id = ⟨.ofNat (i + 1)⟩ then none else scenario.row? id := by
  have fewer : (((mappingOf scenario.workers).without worker).entries.map
      (·.virtualWorker)).Nodup :=
    (nodup_virtualWorkers few).sublist (List.filter_sublist.map _)
  ext row
  rw [WorkerMap.rows_ofEntries_eq_some_iff fewer, Option.ite_none_left_eq_some,
    row?_eq_some_iff_mem_mappingOf few]
  simp only [MappingUpdate.without, List.mem_filter, decide_eq_true_eq]
  -- a row is not about the worker exactly if it is not the one of its virtual worker
  constructor
  · rintro ⟨entry, ⟨member, other⟩, rfl, same⟩
    have apart := mt (worker_eq_iff_of_mem_mappingOf distinct few listed member).mpr other
    exact ⟨apart, entry, member, rfl, same⟩
  · rintro ⟨apart, entry, member, rfl, same⟩
    have other := mt (worker_eq_iff_of_mem_mappingOf distinct few listed member).mp apart
    exact ⟨entry, ⟨member, other⟩, rfl, same⟩

end

end Cluster

/-! ## Translators -/

namespace Translator

theorem worker_apply (translator : Translator) (update : MappingUpdate) :
    (translator.apply update).worker = translator.worker := by
  rw [apply]
  split
  · rw [accept]
    split <;> rfl
  · rfl

/-- A translator that does not know its virtual worker accepts every update of valid rows. -/
theorem apply_of_unknown {translator : Translator} (unknown : translator.known = .unassigned)
    {update : MappingUpdate} (valid : ∀ entry ∈ update.entries, entry.isValid) :
    translator.apply update =
      translator.accept ⟨.ofEntries update.entries, update.virtualWorkerOf translator.worker⟩ := by
  have noFault : update.entries.find? (!·.isValid) = none := by
    simpa [List.find?_eq_none] using valid
  have unknownId : VirtualWorkerId.unassigned.isValid = false := by decide
  have resolved : translator.resolve update =
      .ok ⟨.ofEntries update.entries, update.virtualWorkerOf translator.worker⟩ := by
    rw [resolve, MappingUpdate.resolve, MappingUpdate.validate, noFault, unknown, unknownId]
    rfl
  rw [apply, resolved]

/-- The translator knows its virtual worker and uses the mapping in force. -/
structure Ready (translator : Translator) (scenario : Scenario) : Prop where
  isReady : translator.isReady
  map : translator.map = .ofEntries (Cluster.mappingOf scenario.workers).entries

variable {scenario : Scenario} {translator : Translator}

/-- A translator that does not know its virtual worker learns it from the mapping in force. -/
theorem ready_apply (sound : scenario.Sound) (few : scenario.workers.length < UInt32.size)
    (listed : translator.worker ∈ scenario.workers) (unknown : translator.known = .unassigned) :
    (translator.apply (Cluster.mappingOf scenario.workers)).Ready scenario := by
  obtain ⟨i, at_i⟩ := List.mem_iff_getElem?.mp listed
  have valid := Cluster.isValid_of_mem_mappingOf sound few
    (Cluster.mem_entries_mappingOf.mpr ⟨i, _, at_i, rfl⟩)
  rw [MappingEntry.isValid, Bool.and_eq_true] at valid
  rw [apply_of_unknown unknown fun _ => Cluster.isValid_of_mem_mappingOf sound few,
    Cluster.virtualWorkerOf_mappingOf sound.workers_nodup at_i]
  exact ⟨valid.1, rfl⟩

/-- From the mapping without its own row a translator does not learn its virtual worker. -/
theorem unknown_apply_without (sound : scenario.Sound) (few : scenario.workers.length < UInt32.size)
    (unknown : translator.known = .unassigned) :
    (translator.apply ((Cluster.mappingOf scenario.workers).without translator.worker)).known =
      .unassigned := by
  rw [apply_of_unknown unknown, MappingUpdate.virtualWorkerOf_without]
  · exact unknown
  · intro entry member
    exact Cluster.isValid_of_mem_mappingOf sound few (List.mem_filter.mp member).1

/-- A ready translator resolves exactly the virtual workers that a worker serves. -/
theorem Ready.resolveWorker?_eq (ready : translator.Ready scenario) (sound : scenario.Sound)
    (few : scenario.workers.length < UInt32.size) (id : VirtualWorkerId) :
    translator.resolveWorker? id = scenario.worker? id := by
  rw [resolveWorker?, if_pos ready.isReady, worker?, ready.map,
    Cluster.worker?_ofEntries_mappingOf few]
  cases served : scenario.worker? id with
  | none => rfl
  | some worker =>
    exact Option.filter_eq_some_iff.mpr
      ⟨rfl, sound.workers_valid worker (Scenario.mem_workers_of_worker? served)⟩

theorem resolveWorker?_of_unknown (unknown : translator.known = .unassigned)
    (id : VirtualWorkerId) : translator.resolveWorker? id = none := by
  rw [resolveWorker?, if_neg]
  rw [isReady, unknown]
  decide

end Translator

end Handover
