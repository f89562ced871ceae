import Handover.Proofs.Cluster.Stages
import Handover.Proofs.Identity

/-! # Identity survives restarts

A restart throws away the translator of a worker, and with it what the worker knew about itself.  In
the tick of the restart the new translator takes a mapping from before its process was there, from
which it learns nothing, and in the next tick, unless the worker restarts again, the mapping in force.
So a worker is without identity exactly in the ticks in which it restarts, and it always comes back as
the virtual worker that it was.

A process is described by two lists, the mappings it has taken since it started and those that wait for
it (`Process.Fed`).  What its translator has become follows from the first list alone, and between two
ticks very few lists occur: the mapping in force is the last to be taken, and at most the one without
the worker came before it (`Process.Outdated`).
-/

namespace Handover

namespace MappingUpdate

theorem clean_of_isValid {update : MappingUpdate}
    (valid : ∀ entry ∈ update.entries, entry.isValid) : update.Clean := by
  simpa [clean_iff_find?, List.find?_eq_none] using valid

theorem Clean.without {update : MappingUpdate} (clean : update.Clean) (worker : WorkerName) :
    (update.without worker).Clean :=
  fun entry member => clean entry (List.mem_filter.mp member).1

end MappingUpdate

theorem Cluster.clean_mappingOf {scenario : Scenario} (sound : scenario.Sound)
    (few : scenario.workers.length < UInt32.size) : (mappingOf scenario.workers).Clean :=
  MappingUpdate.clean_of_isValid fun _ => isValid_of_mem_mappingOf sound few

namespace Process

open Cluster (mappingOf)

variable {scenario : Scenario} {process p q : Process} {update : MappingUpdate}
  {taken waiting : List MappingUpdate} {i : Nat}

/-! ## What a process was given -/

/-- The translator has taken the first mappings since the process started, and the others wait. -/
structure Fed (process : Process) (taken waiting : List MappingUpdate) : Prop where
  translator : process.translator = .after process.name ⟨[]⟩ taken
  mappings : process.mappings = waiting

theorem fed_boot (name : WorkerName) (mappings : List MappingUpdate) (inbox : List WorkerOp) :
    (boot name mappings inbox).Fed [] mappings := ⟨rfl, rfl⟩

theorem Fed.of_alike (fed : p.Fed taken waiting) (alike : p.Alike q) : q.Fed taken waiting where
  translator := by rw [alike.translator, alike.name, fed.translator]
  mappings := alike.mappings.trans fed.mappings

theorem Fed.deliver (fed : process.Fed taken (update :: waiting)) :
    process.deliver.value.Fed (taken ++ [update]) waiting := by
  rw [value_deliver, fed.mappings]
  refine ⟨?_, rfl⟩
  rw [Translator.after_concat, ← fed.translator]
  rfl

theorem Fed.deliver_nil (fed : process.Fed taken []) : process.deliver.value.Fed taken [] := by
  rw [value_deliver, fed.mappings]
  exact ⟨fed.translator, rfl⟩

/-- A process that was not told its virtual worker accepts the next mapping if it is clean. -/
theorem Fed.accepts_next (fed : process.Fed taken (update :: waiting))
    (unknown : Translator.identity process.name taken = none) (clean : update.Clean)
    {next : MappingUpdate} (first : process.mappings.head? = some next) :
    process.translator.accepts next := by
  rw [fed.mappings] at first
  obtain rfl := Option.some.inj first
  rw [fed.translator]
  exact (Translator.accepts_after_of_none unknown).mpr clean

/-! ## What a process can have been given -/

/-- What a worker can have taken before the mapping in force: nothing, or the mapping without it. -/
def Outdated (scenario : Scenario) (worker : WorkerName) (taken : List MappingUpdate) : Prop :=
  taken = [] ∨ taken = [(mappingOf scenario.workers).without worker]

/-- The mapping in force comes next. -/
def Expectant (scenario : Scenario) (process : Process) : Prop :=
  ∃ taken, Outdated scenario process.name taken ∧ process.Fed taken [mappingOf scenario.workers]

/-- The mapping in force was taken, and nothing waits any more. -/
def Informed (scenario : Scenario) (process : Process) : Prop :=
  ∃ taken, Outdated scenario process.name taken ∧
    process.Fed (taken ++ [mappingOf scenario.workers]) []

/-- The mapping in force is the last that the process is given. -/
def Supplied (scenario : Scenario) (process : Process) : Prop :=
  process.Expectant scenario ∨ process.Informed scenario

theorem Informed.of_alike (informed : p.Informed scenario) (alike : p.Alike q) :
    q.Informed scenario := by
  obtain ⟨taken, outdated, fed⟩ := informed
  exact ⟨taken, alike.name ▸ outdated, fed.of_alike alike⟩

theorem Supplied.of_alike (supplied : p.Supplied scenario) (alike : p.Alike q) :
    q.Supplied scenario := by
  rcases supplied with ⟨taken, outdated, fed⟩ | informed
  · exact .inl ⟨taken, alike.name ▸ outdated, fed.of_alike alike⟩
  · exact .inr (informed.of_alike alike)

theorem Supplied.deliver (supplied : process.Supplied scenario) :
    process.deliver.value.Informed scenario := by
  rcases supplied with ⟨taken, outdated, fed⟩ | ⟨taken, outdated, fed⟩
  · exact ⟨taken, process.name_deliver ▸ outdated, fed.deliver⟩
  · exact ⟨taken, process.name_deliver ▸ outdated, fed.deliver_nil⟩

/-! ## What it knows of itself -/

/-- The process knows its virtual worker, its strategy was told, and its mapping is complete. -/
structure Enrolled (scenario : Scenario) (own : VirtualWorkerId) (process : Process) : Prop where
  ready : process.translator.isReady
  known : process.translator.known = own
  told : process.virtualWorker = own
  rows : ∀ id : VirtualWorkerId, process.translator.map.rows[id]? = scenario.row? id

/-- Neither the process nor its strategy knows its virtual worker, and its mapping is complete but for
the row of this one. -/
structure Unaware (scenario : Scenario) (own : VirtualWorkerId) (process : Process) : Prop where
  unready : process.translator.isReady = false
  known : process.translator.known = .unassigned
  told : process.virtualWorker = .unassigned
  rows : ∀ id : VirtualWorkerId, process.translator.map.rows[id]? =
    if id = own then none else scenario.row? id

theorem Outdated.identity_eq {worker : WorkerName} (outdated : Outdated scenario worker taken) :
    Translator.identity worker taken = none := by
  rcases outdated with rfl | rfl
  · rfl
  · -- the mapping without the worker has no row that would tell it anything
    simp [Translator.identity, MappingUpdate.virtualWorkerOf_without]

section

variable (sound : scenario.Sound) (few : scenario.workers.length < UInt32.size)

include sound few

theorem Informed.enrolled (informed : process.Informed scenario)
    (listed : scenario.workers[i]? = some process.name) :
    process.Enrolled scenario ⟨.ofNat (i + 1)⟩ := by
  obtain ⟨taken, outdated, fed⟩ := informed
  have given := Cluster.virtualWorkerOf_mappingOf sound.workers_nodup listed
  have clean := Cluster.clean_mappingOf sound few
  -- what was taken before told it nothing, so the mapping in force decides alone
  have translator := fed.translator
  rw [Translator.after_concat_of_unknown outdated.identity_eq clean, given] at translator
  refine ⟨?ready, ?known, ?told, fun id => ?rows⟩
  case ready =>
    rw [translator]
    exact clean.isValid_of_virtualWorkerOf given
  case known => rw [translator, Option.getD_some]
  case told =>
    rw [virtualWorker, translator]
    rfl
  case rows =>
    rw [translator]
    exact Cluster.rows_ofEntries_mappingOf few id

theorem Fed.unaware
    (fed : process.Fed [(mappingOf scenario.workers).without process.name] waiting)
    (listed : scenario.workers[i]? = some process.name) :
    process.Unaware scenario ⟨.ofNat (i + 1)⟩ := by
  have clean := (Cluster.clean_mappingOf sound few).without process.name
  have translator := fed.translator
  rw [← List.nil_append [_], Translator.after_concat_of_unknown rfl clean,
    MappingUpdate.virtualWorkerOf_without] at translator
  refine ⟨?unready, ?known, ?told, fun id => ?rows⟩
  case unready =>
    rw [translator]
    rfl
  case known => rw [translator, Option.getD_none]
  case told =>
    rw [virtualWorker, translator]
    rfl
  case rows =>
    rw [translator]
    exact Cluster.rows_ofEntries_without sound.workers_nodup few listed id

end

end Process

namespace Cluster

variable {settings : Settings} {cluster : Cluster} {order : VisitOrder} {n : Nat}

/-! ## Through the ticks -/

section

variable (resting : Resting settings n cluster)
  (supplied : ∀ p ∈ cluster.processes, p.Supplied settings.scenario)

include resting supplied

theorem fed_playScripts {q : Process} (member : q ∈ cluster.playScripts.value.processes) :
    (settings.scenario.restartsAt (n + 1) q.name = true →
        q.Fed [] [(mappingOf settings.scenario.workers).without q.name,
          mappingOf settings.scenario.workers]) ∧
      (settings.scenario.restartsAt (n + 1) q.name = false → q.Supplied settings.scenario) := by
  obtain ⟨renewed, kept⟩ := resting.origin_playScripts member
  refine ⟨fun restarts => ?_, fun stays => ?_⟩
  · obtain ⟨inbox, booted⟩ := renewed restarts
    rw [booted]
    exact Process.fed_boot q.name _ inbox
  · obtain ⟨p, before, alike⟩ := kept stays
    exact (supplied p before).of_alike alike

/-- After a tick a process has the mapping in force, or it restarted and that one comes next. -/
theorem fed_tickIn {q : Process} (member : q ∈ (cluster.tickIn order).2.processes) :
    (settings.scenario.restartsAt (n + 1) q.name = true →
        q.Fed [(mappingOf settings.scenario.workers).without q.name]
          [mappingOf settings.scenario.workers]) ∧
      (settings.scenario.restartsAt (n + 1) q.name = false → q.Informed settings.scenario) := by
  obtain ⟨r, prepared, later⟩ := alike_of_mem_tickIn member
  obtain ⟨p, played, earlier⟩ := alike_of_mem_prepared prepared
  -- from delivery to the end of the tick neither translators nor mappings are touched
  have alike := earlier.trans later
  obtain ⟨renewed, kept⟩ := fed_playScripts resting supplied played
  rw [alike.name, p.name_deliver]
  exact ⟨fun restarts => (renewed restarts).deliver.of_alike alike,
    fun stays => (kept stays).deliver.of_alike alike⟩

end

theorem supplied_initial {p : Process} (member : p ∈ (initial settings).processes) :
    p.Supplied settings.scenario := by
  obtain ⟨worker, _, rfl⟩ := List.mem_map.mp member
  exact .inl ⟨[], .inl rfl, Process.fed_boot _ _ _⟩

section

variable (sound : settings.scenario.Sound) (few : settings.scenario.workers.length < UInt32.size)

include sound few

theorem supplied_evolve (orders : Nat → VisitOrder) (n : Nat) :
    ∀ p ∈ ((initial settings).evolve orders n).processes, p.Supplied settings.scenario := by
  induction n with
  | zero => exact fun p => supplied_initial
  | succ n ih =>
    intro p member
    obtain ⟨renewed, kept⟩ := fed_tickIn (resting_evolve sound few orders n) ih member
    cases restarts : settings.scenario.restartsAt (n + 1) p.name with
    | true => exact .inl ⟨_, .inr rfl, renewed restarts⟩
    | false => exact .inr (kept restarts)

theorem accepts_of_mem_playScripts (orders : Nat → VisitOrder) (n : Nat) {p : Process}
    (member : p ∈ ((initial settings).evolve orders n).playScripts.value.processes)
    {update : MappingUpdate} (next : p.mappings.head? = some update) :
    p.translator.accepts update := by
  have clean := clean_mappingOf sound few
  obtain ⟨renewed, kept⟩ := fed_playScripts (resting_evolve sound few orders n)
    (supplied_evolve sound few orders n) member
  -- the mappings are clean, and who takes one does not know its virtual worker yet
  cases restarts : settings.scenario.restartsAt (n + 1) p.name with
  | true => exact (renewed restarts).accepts_next rfl (clean.without p.name) next
  | false =>
    obtain ⟨taken, outdated, fed⟩ | ⟨taken, outdated, fed⟩ := kept restarts
    · exact fed.accepts_next outdated.identity_eq clean next
    · -- who has taken the mapping in force is given nothing more
      rw [fed.mappings] at next
      cases next

end

/-- After every tick, a worker that did not restart in it knows which virtual worker it is, namely the
one of its place in the scenario, its strategy knows the same, and its mapping is the one in force.  A
worker that did restart in it does not know its virtual worker, its strategy does not either, and its
mapping lacks the row of this one and no other.  No mapping is ever refused: the one that a process
takes next in a tick, once the scripts were played, is accepted. -/
theorem identity_survives_restarts {settings : Settings} {cluster : Cluster}
    (accepted : new settings = .ok cluster) (few : settings.scenario.workers.length < UInt32.size)
    (orders : Nat → VisitOrder) (n : Nat) :
    let now := cluster.evolve orders (n + 1)
    now.processes.map (·.name) = settings.scenario.workers ∧
      (∀ (i : Nat) (p : Process), now.processes[i]? = some p →
        (settings.scenario.restartsAt (n + 1) p.name = false →
          p.Enrolled settings.scenario ⟨.ofNat (i + 1)⟩) ∧
        (settings.scenario.restartsAt (n + 1) p.name = true →
          p.Unaware settings.scenario ⟨.ofNat (i + 1)⟩)) ∧
      ∀ p ∈ (cluster.evolve orders n).playScripts.value.processes, ∀ update,
        p.mappings.head? = some update → p.translator.accepts update := by
  obtain ⟨sound, rfl⟩ := (new_eq_ok_iff settings cluster).mp accepted
  intro now
  have names := ((consistent_initial sound).evolve orders (n + 1)).names
  refine ⟨names, fun i p at_i => ?_, fun p member update => accepts_of_mem_playScripts sound few
    orders n member⟩
  have listed : settings.scenario.workers[i]? = some p.name := by
    rw [← names, List.getElem?_map, at_i]
    rfl
  obtain ⟨renewed, kept⟩ := fed_tickIn (resting_evolve sound few orders n)
    (supplied_evolve sound few orders n) (List.mem_of_getElem? at_i)
  exact ⟨fun stays => (kept stays).enrolled sound few listed,
    fun restarts => (renewed restarts).unaware sound few listed⟩

/-- In tick 60 of the standard scenario the second worker restarts and the first does not. -/
theorem identity_survives_restarts_standard :
    let now := (initial .standard).evolve (fun _ => .ascending) 60
    new .standard = .ok (initial .standard) ∧ Scenario.standard.workers.length < UInt32.size ∧
      ∃ first second, now.processes[0]? = some first ∧ now.processes[1]? = some second ∧
        first.Enrolled .standard ⟨1⟩ ∧ second.Unaware .standard ⟨2⟩ := by
  intro now
  have few : Scenario.standard.workers.length < UInt32.size := by decide
  obtain ⟨names, stages, _⟩ := identity_survives_restarts new_standard few (fun _ => .ascending) 59
  have named (i : Nat) : now.processes[i]?.map (·.name) = Scenario.standard.workers[i]? := by
    rw [← List.getElem?_map]
    exact congrArg (·[i]?) names
  obtain ⟨first, at_0, name⟩ := Option.map_eq_some_iff.mp (named 0)
  obtain ⟨second, at_1, name'⟩ := Option.map_eq_some_iff.mp (named 1)
  refine ⟨new_standard, few, first, second, at_0, at_1, ?_, ?_⟩
  · exact (stages 0 first at_0).1 (by rw [name]; decide)
  · exact (stages 1 second at_1).2 (by rw [name']; decide)

end Cluster

end Handover
