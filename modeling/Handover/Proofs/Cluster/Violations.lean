import Handover.Proofs.Cluster.Writers

/-! # The first violation

A scenario may violate the rules at many places at once.  Which places these are does not depend on how
the scenario is read: each has a list and a position, and an item repeats another one if that stands
anywhere before it (`Scenario.violation?`).  A scenario is refused for the first of them, in the order
workers, entities, changes of intent, restarts, each list from its start.

The checks of workers and entities carry the names met before along and stop at the first fault.  They
are both a `scan`, and so are the checks of the two scripts, which carry nothing; that a scan finds the
first violation of its list is shown once (`leads_scan`).
-/

namespace Handover

namespace Scenario

/-! ## Violations and their places -/

/-- What is checked, in this order. -/
inductive Stage where
  | roster
  | workers
  | entities
  | changes
  | restarts
deriving DecidableEq

def Stage.rank : Stage → Nat
  | .roster => 0
  | .workers => 1
  | .entities => 2
  | .changes => 3
  | .restarts => 4

structure Place where
  stage : Stage
  position : Nat
deriving DecidableEq

def Place.Before (place later : Place) : Prop :=
  place.stage.rank < later.stage.rank ∨
    place.stage = later.stage ∧ place.position < later.position

/-- What is wrong with a worker, given those listed before it. -/
def workerViolation? (before : List WorkerName) (worker : WorkerName) : Option SetupError :=
  if !worker.isValid then some .unnamedWorker
  else if worker ∈ before then some (.repeatedWorker worker)
  else none

/-- What is wrong with an entity, given the ids listed before it. -/
def entityViolation? (before : List EntityId) (seed : EntitySeed) : Option SetupError :=
  if !seed.id.isValid then some (.reservedEntity seed.id)
  else if seed.id ∈ before then some (.repeatedEntity seed.id)
  else none

def changeViolation? (scenario : Scenario) (change : IntentChange) : Option SetupError :=
  if change.entity ∈ scenario.entities.map (·.id) then none
  else some (.unknownEntity change.tick change.entity)

def restartViolation? (scenario : Scenario) (restart : WorkerRestart) : Option SetupError :=
  if restart.worker ∈ scenario.workers then none
  else some (.unknownWorker restart.tick restart.worker)

/-- The violation at a place, if there is one. -/
def violation? (scenario : Scenario) (place : Place) : Option SetupError :=
  match place.stage with
  | .roster => if scenario.workers = [] then some .noWorkers else none
  | .workers => scenario.workers[place.position]?.bind
      (workerViolation? (scenario.workers.take place.position))
  | .entities => scenario.entities[place.position]?.bind
      (entityViolation? ((scenario.entities.take place.position).map (·.id)))
  | .changes => scenario.intentChanges[place.position]?.bind scenario.changeViolation?
  | .restarts => scenario.restarts[place.position]?.bind scenario.restartViolation?

/-- The error is the violation at some place, and there is none at any place before. -/
def FirstViolation (scenario : Scenario) (error : SetupError) : Prop :=
  ∃ place, scenario.violation? place = some error ∧
    ∀ earlier : Place, earlier.Before place → scenario.violation? earlier = none

/-! ## Reading one list -/

/-- The answer is the first of a row of faults, or there is none. -/
inductive Leads (faultAt? : Nat → Option SetupError) : Option SetupError → Prop where
  | none (clean : ∀ i, faultAt? i = .none) : Leads faultAt? .none
  | some {i : Nat} {error : SetupError} (here : faultAt? i = .some error)
      (first : ∀ j < i, faultAt? j = .none) : Leads faultAt? (.some error)

namespace Leads

variable {faultAt? : Nat → Option SetupError} {error : SetupError} {answer : Option SetupError}

theorem head (here : faultAt? 0 = .some error) : Leads faultAt? (.some error) :=
  .some here fun j before => absurd before (Nat.not_lt_zero j)

theorem tail (clean : faultAt? 0 = .none) (later : Leads (fun i => faultAt? (i + 1)) answer) :
    Leads faultAt? answer := by
  cases later with
  | none none_later =>
    refine .none fun i => ?_
    cases i with
    | zero => exact clean
    | succ i => exact none_later i
  | @some i error here first =>
    refine .some here fun j before => ?_
    cases j with
    | zero => exact clean
    | succ j => exact first j (Nat.lt_of_succ_lt_succ before)

theorem eq_none (leads : Leads faultAt? .none) (i : Nat) : faultAt? i = .none := by
  cases leads with
  | none clean => exact clean i

theorem exists_first (leads : Leads faultAt? (.some error)) :
    ∃ i, faultAt? i = .some error ∧ ∀ j < i, faultAt? j = .none := by
  cases leads with
  | some here first => exact ⟨_, here, first⟩

end Leads

section

variable {α κ : Type} (fault? : List κ → α → Option SetupError) (key : α → κ)

/-- The first fault in a list whose items are judged in view of the keys before them. -/
def scan (before : List κ) : List α → Option SetupError
  | [] => none
  | x :: xs => (fault? before x).or (scan (key x :: before) xs)

theorem leads_scan (before : List κ) (xs : List α) :
    Leads (fun i => xs[i]?.bind (fault? (((xs.take i).map key).reverse ++ before)))
      (scan fault? key before xs) := by
  induction xs generalizing before with
  | nil => exact .none fun i => by simp
  | cons x xs ih =>
    rw [scan]
    cases here : fault? before x with
    | some error => exact .head (by simpa using here)
    | none =>
      -- what stands before an item of the tail is the head and what stands before it there
      refine .tail (by simpa using here) ?_
      simpa using ih (key x :: before)

end

theorem workerViolation?_reverse (before : List WorkerName) :
    workerViolation? before.reverse = workerViolation? before := by
  funext worker
  rw [workerViolation?, workerViolation?]
  simp only [List.mem_reverse]

theorem entityViolation?_reverse (before : List EntityId) :
    entityViolation? before.reverse = entityViolation? before := by
  funext seed
  rw [entityViolation?, entityViolation?]
  simp only [List.mem_reverse]

theorem workerFault?_eq_scan (before workers : List WorkerName) :
    workerFault? before workers = scan workerViolation? id before workers := by
  induction workers generalizing before with
  | nil => rfl
  | cons worker workers ih =>
    rw [workerFault?, scan, workerViolation?, ih]
    split
    · rfl
    · split <;> rfl

theorem entityFault?_eq_scan (before : List EntityId) (seeds : List EntitySeed) :
    entityFault? before seeds = scan entityViolation? (·.id) before seeds := by
  induction seeds generalizing before with
  | nil => rfl
  | cons seed seeds ih =>
    rw [entityFault?, scan, entityViolation?, ih]
    split
    · rfl
    · split <;> rfl

variable (scenario : Scenario)

/-- What is looked for from the start of a list is a scan that carries nothing along. -/
theorem map_find?_eq_scan {α : Type} {bad : α → Bool} {error : α → SetupError}
    {fault? : α → Option SetupError} (same : ∀ x, fault? x = if bad x then some (error x) else none)
    (before xs : List α) :
    (xs.find? bad).map error = scan (fun _ => fault?) id before xs := by
  induction xs generalizing before with
  | nil => rfl
  | cons x xs ih =>
    rw [List.find?_cons, scan, ← ih, same]
    cases bad x <;> rfl

theorem changeFault?_eq_scan :
    scenario.changeFault? =
      scan (fun _ => scenario.changeViolation?) id [] scenario.intentChanges := by
  refine map_find?_eq_scan (fun change => ?_) [] _
  rw [changeViolation?]
  by_cases listed : change.entity ∈ scenario.entities.map (·.id) <;> simp [listed]

theorem restartFault?_eq_scan :
    scenario.restartFault? = scan (fun _ => scenario.restartViolation?) id [] scenario.restarts := by
  refine map_find?_eq_scan (fun restart => ?_) [] _
  rw [restartViolation?]
  by_cases listed : restart.worker ∈ scenario.workers <;> simp [listed]

/-! ## Reading all lists -/

def stageFault? : Stage → Option SetupError
  | .roster => if scenario.workers = [] then some .noWorkers else none
  | .workers => workerFault? [] scenario.workers
  | .entities => entityFault? [] scenario.entities
  | .changes => scenario.changeFault?
  | .restarts => scenario.restartFault?

theorem leads_stageFault? (stage : Stage) :
    Leads (fun position => scenario.violation? ⟨stage, position⟩) (scenario.stageFault? stage) := by
  cases stage with
  | roster =>
    rw [stageFault?]
    split
    case isTrue empty => exact .head (if_pos empty)
    case isFalse listed => exact .none fun _ => if_neg listed
  | workers =>
    have leads := leads_scan workerViolation? id [] scenario.workers
    rw [← workerFault?_eq_scan] at leads
    simp only [List.map_id, List.append_nil, workerViolation?_reverse] at leads
    exact leads
  | entities =>
    have leads := leads_scan entityViolation? (·.id) [] scenario.entities
    rw [← entityFault?_eq_scan] at leads
    simp only [List.append_nil, entityViolation?_reverse] at leads
    exact leads
  | changes =>
    have leads := leads_scan (fun _ => scenario.changeViolation?) id [] scenario.intentChanges
    rw [← changeFault?_eq_scan] at leads
    exact leads
  | restarts =>
    have leads := leads_scan (fun _ => scenario.restartViolation?) id [] scenario.restarts
    rw [← restartFault?_eq_scan] at leads
    exact leads

theorem fault?_eq_or : scenario.fault? =
    (scenario.stageFault? .roster).or ((scenario.stageFault? .workers).or
      ((scenario.stageFault? .entities).or ((scenario.stageFault? .changes).or
        (scenario.stageFault? .restarts)))) := by
  have workers : scenario.workersFault? =
      (scenario.stageFault? .roster).or (scenario.stageFault? .workers) := by
    rw [workersFault?, stageFault?, stageFault?]
    split <;> rfl
  rw [← Option.or_assoc, ← workers]
  simp only [fault?, Option.orElse_eq_orElse, Option.orElse_eq_or]
  rfl

/-- The fault of a scenario is that of the first stage that has one. -/
theorem exists_stage_of_fault? {error : SetupError} (fault : scenario.fault? = some error) :
    ∃ stage, scenario.stageFault? stage = some error ∧
      ∀ earlier : Stage, earlier.rank < stage.rank → scenario.stageFault? earlier = none := by
  rw [fault?_eq_or] at fault
  simp only [Option.or_eq_some_iff] at fault
  rcases fault with roster | ⟨noRoster, workers | ⟨noWorkers, entities | ⟨noEntities,
    changes | ⟨noChanges, restarts⟩⟩⟩⟩
  · refine ⟨.roster, roster, fun earlier before => ?_⟩
    cases earlier <;> simp [Stage.rank] at before
  · refine ⟨.workers, workers, fun earlier before => ?_⟩
    cases earlier <;> first | assumption | simp [Stage.rank] at before
  · refine ⟨.entities, entities, fun earlier before => ?_⟩
    cases earlier <;> first | assumption | simp [Stage.rank] at before
  · refine ⟨.changes, changes, fun earlier before => ?_⟩
    cases earlier <;> first | assumption | simp [Stage.rank] at before
  · refine ⟨.restarts, restarts, fun earlier before => ?_⟩
    cases earlier <;> first | assumption | simp [Stage.rank] at before

theorem firstViolation_of_fault? {error : SetupError} (fault : scenario.fault? = some error) :
    scenario.FirstViolation error := by
  obtain ⟨stage, here, first⟩ := scenario.exists_stage_of_fault? fault
  have leads := scenario.leads_stageFault? stage
  rw [here] at leads
  obtain ⟨position, violated, clean⟩ := leads.exists_first
  refine ⟨⟨stage, position⟩, violated, fun ⟨earlierStage, earlierPosition⟩ before => ?_⟩
  rcases before with earlier | ⟨rfl, earlier⟩
  · -- a stage before has no fault, so it has no violation at any position
    have leads := scenario.leads_stageFault? earlierStage
    rw [first earlierStage earlier] at leads
    exact leads.eq_none earlierPosition
  · exact clean earlierPosition earlier

theorem Stage.eq_of_rank {stage stage' : Stage} (same : stage.rank = stage'.rank) :
    stage = stage' := by
  cases stage <;> cases stage' <;> first | rfl | cases same

theorem Place.before_or (place place' : Place) :
    place.Before place' ∨ place = place' ∨ place'.Before place := by
  obtain ⟨stage, position⟩ := place
  obtain ⟨stage', position'⟩ := place'
  rcases Nat.lt_trichotomy stage.rank stage'.rank with earlier | same | later
  · exact .inl (.inl earlier)
  · obtain rfl := Stage.eq_of_rank same
    rcases Nat.lt_trichotomy position position' with earlier | rfl | later
    · exact .inl (.inr ⟨rfl, earlier⟩)
    · exact .inr (.inl rfl)
    · exact .inr (.inr (.inr ⟨rfl, later⟩))
  · exact .inr (.inr (.inl later))

variable {scenario}

theorem FirstViolation.unique {error error' : SetupError} (first : scenario.FirstViolation error)
    (first' : scenario.FirstViolation error') : error = error' := by
  obtain ⟨place, here, clean⟩ := first
  obtain ⟨place', here', clean'⟩ := first'
  rcases place.before_or place' with before | rfl | after
  · rw [clean' place before] at here
    cases here
  · exact Option.some.inj (here.symm.trans here')
  · rw [clean place' after] at here'
    cases here'

theorem not_firstViolation_of_fault? (sound : scenario.fault? = none) (error : SetupError) :
    ¬ scenario.FirstViolation error := by
  rintro ⟨⟨stage, position⟩, here, _⟩
  have none (stage : Stage) : scenario.stageFault? stage = none := by
    rw [fault?_eq_or] at sound
    simp only [Option.or_eq_none_iff] at sound
    obtain ⟨roster, workers, entities, changes, restarts⟩ := sound
    cases stage <;> assumption
  have leads := scenario.leads_stageFault? stage
  rw [none stage] at leads
  rw [leads.eq_none position] at here
  cases here

theorem fault?_eq_some_iff (error : SetupError) :
    scenario.fault? = some error ↔ scenario.FirstViolation error := by
  refine ⟨scenario.firstViolation_of_fault?, fun first => ?_⟩
  cases fault : scenario.fault? with
  | none => exact absurd first (not_firstViolation_of_fault? fault error)
  | some error' => rw [first.unique (scenario.firstViolation_of_fault? fault)]

end Scenario

namespace Cluster

/-! ## From scenarios to clusters -/

/-- A cluster comes from settings exactly if their scenario is sound, and otherwise the error is the
first violation.  In a cluster that comes from settings exactly the listed entities are there, each with
its intent and its components, and owned by the first worker, who may write each of its components; and
nobody may write anything else. -/
theorem new_by_first_violation (settings : Settings) :
    let scenario := settings.scenario
    ((∃ cluster, new settings = .ok cluster) ↔ scenario.Sound) ∧
      (∀ error, new settings = .error error ↔ scenario.FirstViolation error) ∧
      ∀ cluster, new settings = .ok cluster →
        (∀ entity, entity ∈ cluster.entities ↔ entity ∈ scenario.entities.map (·.id)) ∧
        ∀ seed ∈ scenario.entities, ∃ state first, cluster.entities[seed.id]? = some state ∧
          scenario.workers.head? = some first ∧ state.owner = first ∧
          state.intent = seed.intent ∧ state.components = seed.components ∧
          ∀ component, state.acl.writerOf component =
            if component ∈ seed.components then some first else none := by
  intro scenario
  refine ⟨⟨?_, fun sound => ?_⟩, fun error => ?_, fun cluster accepted => ?_⟩
  · rintro ⟨cluster, accepted⟩
    exact ((new_eq_ok_iff settings cluster).mp accepted).1
  · exact ⟨initial settings, (new_eq_ok_iff settings _).mpr ⟨sound, rfl⟩⟩
  · rw [← Scenario.fault?_eq_some_iff, new]
    cases scenario.fault? <;> simp
  · obtain ⟨sound, rfl⟩ := (new_eq_ok_iff settings cluster).mp accepted
    refine ⟨fun entity => ?_, fun seed listed => ?_⟩
    · rw [Std.ExtTreeMap.mem_iff_isSome_getElem?, getElem?_initial sound, Option.isSome_map,
        List.find?_isSome, List.mem_map]
      simp only [decide_eq_true_iff]
      rfl
    · have found := (find?_key_eq_some_iff sound.entities_nodup seed.id seed).mpr ⟨listed, rfl⟩
      obtain ⟨first, others, workers⟩ := List.exists_cons_of_ne_nil sound.workers_ne_nil
      have present : (initial settings).entities[seed.id]? = some (.ofSeed seed first) := by
        rw [getElem?_initial sound, found, workers]
        rfl
      exact ⟨.ofSeed seed first, first, present, by rw [workers]; rfl, rfl, rfl, rfl,
        AccessList.writerOf_granting first seed.components⟩

/-- A scenario with an empty name, a repeated name and a repeated entity is refused for the empty name,
which stands first.  The standard scenario gives its entities to its first worker. -/
theorem new_by_first_violation_standard :
    let faulty : Scenario := { Scenario.standard with
      workers := [⟨"WorkerA"⟩, ⟨""⟩, ⟨"WorkerA"⟩]
      entities := [⟨⟨1⟩, ⟨1⟩, []⟩, ⟨⟨1⟩, ⟨2⟩, []⟩] }
    new { Settings.standard with scenario := faulty } = .error .unnamedWorker ∧
      faulty.FirstViolation .unnamedWorker ∧
      new .standard = .ok (initial .standard) ∧
      ∃ state, (initial .standard).entities[(⟨2⟩ : EntityId)]? = some state ∧
        state.owner = ⟨"ServerWorker1"⟩ ∧ state.acl.writerOf 101 = some state.owner ∧
        state.acl.writerOf 103 = none := by
  intro faulty
  have refused : new { Settings.standard with scenario := faulty } = .error .unnamedWorker := rfl
  refine ⟨refused, ((new_by_first_violation _).2.1 _).mp refused, new_standard, ?_⟩
  obtain ⟨state, first, present, heads, owner, _, _, writers⟩ :=
    ((new_by_first_violation .standard).2.2 _ new_standard).2 ⟨⟨2⟩, ⟨2⟩, [100, 101, 102]⟩ (by decide)
  obtain rfl : (⟨"ServerWorker1"⟩ : WorkerName) = first := Option.some.inj heads
  refine ⟨state, present, owner, ?_, ?_⟩
  · rw [writers, if_pos (by decide), owner]
  · rw [writers, if_neg (by decide)]

end Cluster

end Handover
