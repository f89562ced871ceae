import Handover.Proofs.Cluster.Phases

/-! # Scripts in buckets

A tick plays what the scripts list for it.  Instead of searching the scripts in every tick, a cluster
may sort them into buckets at the start and take the bucket of each tick away when its turn comes.  Both
ways every tick does and reports the same (`Bucketed.advanceVisiting_evolve`): a bucket holds the rows of
its tick in the order of the script, and since the count of ticks only grows, no bucket is wanted again
once it is gone.  The first tick is number 1, so the bucket of tick 0 stays to the end.
-/

namespace Handover

/-! ## Buckets -/

/-- The rows of a script by their ticks. -/
structure Buckets (α : Type) where
  rows : Std.ExtTreeMap Nat (List α)

namespace Buckets

variable {α : Type}

def due (buckets : Buckets α) (tick : Nat) : List α := buckets.rows[tick]?.getD []

/-- Puts a row behind those that lie in the bucket already. -/
def put (buckets : Buckets α) (tick : Nat) (row : α) : Buckets α :=
  ⟨buckets.rows.alter tick fun bucket => some (bucket.getD [] ++ [row])⟩

def ofList (tickOf : α → Nat) (script : List α) : Buckets α :=
  script.foldl (fun buckets row => buckets.put (tickOf row) row) ⟨∅⟩

def take (buckets : Buckets α) (tick : Nat) : List α × Buckets α :=
  (buckets.due tick, ⟨buckets.rows.erase tick⟩)

variable {buckets : Buckets α} {tickOf : α → Nat} {script : List α}

theorem due_put (buckets : Buckets α) (tick tick' : Nat) (row : α) :
    (buckets.put tick row).due tick' =
      buckets.due tick' ++ if tick = tick' then [row] else [] := by
  rw [due, put, Std.ExtTreeMap.getElem?_alter]
  by_cases same : tick = tick'
  · subst same
    simp [due]
  · rw [if_neg (by simpa using same), if_neg same, List.append_nil, due]

theorem due_take (buckets : Buckets α) (tick tick' : Nat) :
    (buckets.take tick).2.due tick' = if tick = tick' then [] else buckets.due tick' := by
  rw [due, take, Std.ExtTreeMap.getElem?_erase]
  by_cases same : tick = tick'
  · subst same
    simp
  · rw [if_neg (by simpa using same), if_neg same, due]

theorem due_ofList (tickOf : α → Nat) (script : List α) (tick : Nat) :
    (ofList tickOf script).due tick = script.filter (tickOf · = tick) := by
  -- the buckets are filled one row after the other, so the induction is over any that are there
  have general (buckets : Buckets α) :
      (script.foldl (fun buckets row => buckets.put (tickOf row) row) buckets).due tick =
        buckets.due tick ++ script.filter (tickOf · = tick) := by
    induction script generalizing buckets with
    | nil => simp
    | cons row script ih =>
      rw [List.foldl_cons, ih, due_put, List.append_assoc, List.filter_cons]
      by_cases here : tickOf row = tick <;> simp [here]
  rw [ofList, general]
  simp [due]

/-- The buckets of a script after so many ticks: those of the ticks from 1 on are gone. -/
def Played (tickOf : α → Nat) (script : List α) (ticks : Nat) (buckets : Buckets α) : Prop :=
  ∀ tick, buckets.due tick =
    if 1 ≤ tick ∧ tick ≤ ticks then [] else script.filter (tickOf · = tick)

theorem played_ofList (tickOf : α → Nat) (script : List α) :
    Played tickOf script 0 (ofList tickOf script) := by
  intro tick
  rw [due_ofList, if_neg (by omega)]

theorem Played.due_next {ticks : Nat} (played : Played tickOf script ticks buckets) :
    buckets.due (ticks + 1) = script.filter (tickOf · = ticks + 1) := by
  rw [played, if_neg (by omega)]

theorem Played.take {ticks : Nat} (played : Played tickOf script ticks buckets) :
    Played tickOf script (ticks + 1) (buckets.take (ticks + 1)).2 := by
  intro tick
  rw [due_take, played]
  by_cases next : ticks + 1 = tick
  · rw [if_pos next, if_pos (by omega)]
  · have gone : 1 ≤ tick ∧ tick ≤ ticks ↔ 1 ≤ tick ∧ tick ≤ ticks + 1 := by omega
    rw [if_neg next]
    simp only [gone]

end Buckets

namespace Cluster

/-! ## Clusters with buckets -/

/-- Lets every process look again at its entities if the tick is one for that. -/
def lookAgain (visit : WorkerName → List EntityId → List EntityId) (cluster : Cluster) :
    Logged Event Cluster :=
  if cluster.rescanDue then cluster.eachProcess fun p => p.rescan (visit p.name) else pure cluster

/-- What a tick does once its scripts have been played. -/
def afterScripts (visit : WorkerName → List EntityId → List EntityId) (cluster : Cluster) :
    Logged Event (TickSummary × Cluster) := do
  let cluster ← cluster.eachProcess Process.deliver
  let cluster ← cluster.lookAgain visit
  if cluster.loadBalancing then cluster.coordinate else return (.quiet, cluster)

theorem advanceVisiting_eq_bind (visit : WorkerName → List EntityId → List EntityId)
    (cluster : Cluster) :
    cluster.advanceVisiting visit = cluster.playScripts >>= afterScripts visit := by
  simp only [advanceVisiting, prepare, bind_assoc]
  rfl

/-- A cluster with its scripts in buckets; the lists that the cluster itself has are not read. -/
structure Bucketed where
  cluster : Cluster
  changes : Buckets IntentChange
  restarts : Buckets WorkerRestart

namespace Bucketed

def initial (settings : Settings) : Bucketed where
  cluster := Cluster.initial settings
  changes := .ofList (·.tick.toNat) settings.scenario.intentChanges
  restarts := .ofList (·.tick.toNat) settings.scenario.restarts

def playScripts (bucketed : Bucketed) : Logged Event Bucketed := do
  let tick := bucketed.cluster.tick + 1
  let (dueChanges, changes) := bucketed.changes.take tick
  let cluster ← dueChanges.foldlM setIntent { bucketed.cluster with tick }
  let (dueRestarts, restarts) := bucketed.restarts.take tick
  let cluster ← dueRestarts.foldlM (fun cluster due => cluster.restart due.worker) cluster
  return { cluster, changes, restarts }

def advanceVisiting (visit : WorkerName → List EntityId → List EntityId) (bucketed : Bucketed) :
    Logged Event (TickSummary × Bucketed) := do
  let bucketed ← bucketed.playScripts
  let (summary, cluster) ← bucketed.cluster.afterScripts visit
  return (summary, { bucketed with cluster })

/-- The cluster after so many ticks, the first of them in the order `orders 0`. -/
def evolve (bucketed : Bucketed) (orders : Nat → VisitOrder) : Nat → Bucketed
  | 0 => bucketed
  | n + 1 => ((bucketed.evolve orders n).advanceVisiting (orders n).arrange).value.2

/-- The buckets are those of the scripts in the lists of the cluster, after the ticks it has seen. -/
structure Current (bucketed : Bucketed) : Prop where
  changes : bucketed.changes.Played (·.tick.toNat) bucketed.cluster.intentChanges
    bucketed.cluster.tick
  restarts : bucketed.restarts.Played (·.tick.toNat) bucketed.cluster.restarts
    bucketed.cluster.tick

/-- What a tick that leads to a cluster makes of the buckets. -/
def leave (bucketed : Bucketed) (cluster : Cluster) : Bucketed where
  cluster
  changes := (bucketed.changes.take (bucketed.cluster.tick + 1)).2
  restarts := (bucketed.restarts.take (bucketed.cluster.tick + 1)).2

variable {bucketed : Bucketed}

theorem current_initial (settings : Settings) : (initial settings).Current where
  changes := Buckets.played_ofList _ _
  restarts := Buckets.played_ofList _ _

theorem Current.leave (current : bucketed.Current) {cluster : Cluster}
    (abreast : Abreast bucketed.cluster.nextTick cluster) : (bucketed.leave cluster).Current := by
  obtain ⟨samePlan, sameTick⟩ := abreast
  have changes : cluster.intentChanges = bucketed.cluster.intentChanges :=
    congrArg Plan.intentChanges samePlan
  have restarts : cluster.restarts = bucketed.cluster.restarts := congrArg Plan.restarts samePlan
  have tick : cluster.tick = bucketed.cluster.tick + 1 := sameTick
  constructor
  · show Buckets.Played _ cluster.intentChanges cluster.tick _
    rw [changes, tick]
    exact current.changes.take
  · show Buckets.Played _ cluster.restarts cluster.tick _
    rw [restarts, tick]
    exact current.restarts.take

/-- The buckets of a tick hold what the cluster finds in its lists. -/
theorem Current.playScripts_eq (current : bucketed.Current) :
    bucketed.playScripts = bucketed.leave <$> bucketed.cluster.playScripts := by
  let changed := bucketed.cluster.nextTick.dueChanges.foldlM setIntent bucketed.cluster.nextTick
  have changes : bucketed.changes.due (bucketed.cluster.tick + 1) =
      bucketed.cluster.nextTick.dueChanges := current.changes.due_next
  -- changes of intent leave the script of restarts and the tick alone
  have restarts : changed.value.dueRestarts =
      bucketed.restarts.due (bucketed.cluster.tick + 1) := by
    obtain ⟨samePlan, sameTick⟩ :=
      bucketed.cluster.nextTick.abreast_setIntents bucketed.cluster.nextTick.dueChanges
    have script : changed.value.restarts = bucketed.cluster.restarts := by
      rw [Logged.value_foldlM]
      exact congrArg Plan.restarts samePlan
    have tick : changed.value.tick = bucketed.cluster.tick + 1 := by
      rw [Logged.value_foldlM]
      exact sameTick
    rw [current.restarts.due_next, dueRestarts, script, tick]
  calc bucketed.playScripts
      = changed >>= fun cluster => bucketed.leave <$>
          (bucketed.restarts.due (bucketed.cluster.tick + 1)).foldlM
            (fun cluster due => cluster.restart due.worker) cluster := by
        rw [playScripts, Buckets.take, changes]
        rfl
    _ = changed >>= fun cluster => bucketed.leave <$>
          cluster.dueRestarts.foldlM (fun cluster due => cluster.restart due.worker) cluster :=
        Logged.bind_congr (by rw [restarts])
    _ = bucketed.leave <$> bucketed.cluster.playScripts := (map_bind _ _ _).symm

/-- A tick with buckets does and reports what the tick of its cluster does and reports. -/
theorem Current.advanceVisiting_eq (current : bucketed.Current)
    (visit : WorkerName → List EntityId → List EntityId) :
    bucketed.advanceVisiting visit =
      (fun (summary, cluster) => (summary, bucketed.leave cluster)) <$>
        bucketed.cluster.advanceVisiting visit := by
  rw [advanceVisiting, current.playScripts_eq, advanceVisiting_eq_bind, bind_map_left, map_bind]
  rfl

/-! ## Runs -/

theorem current_evolve (settings : Settings) (orders : Nat → VisitOrder) (n : Nat) :
    ((initial settings).evolve orders n).Current ∧
      ((initial settings).evolve orders n).cluster =
        (Cluster.initial settings).evolve orders n := by
  induction n with
  | zero => exact ⟨current_initial settings, rfl⟩
  | succ n ih =>
    obtain ⟨current, same⟩ := ih
    have next : (initial settings).evolve orders (n + 1) =
        ((initial settings).evolve orders n).leave
          ((Cluster.initial settings).evolve orders (n + 1)) := by
      rw [evolve, current.advanceVisiting_eq, same]
      rfl
    rw [next]
    refine ⟨current.leave ?_, rfl⟩
    rw [same]
    exact abreast_tickIn _ _

/-- In every tick of a run it makes no difference for what is done and reported whether the scripts are
in buckets.  After so many ticks the buckets of the ticks from 1 on are gone, and the others hold what
the scripts list for their ticks. -/
theorem advanceVisiting_evolve (settings : Settings) (orders : Nat → VisitOrder) (n : Nat)
    (visit : WorkerName → List EntityId → List EntityId) :
    let bucketed := (initial settings).evolve orders n
    let cluster := (Cluster.initial settings).evolve orders n
    (fun (summary, next) => (summary, next.cluster)) <$> bucketed.advanceVisiting visit =
        cluster.advanceVisiting visit ∧
      bucketed.changes.Played (·.tick.toNat) settings.scenario.intentChanges n ∧
      bucketed.restarts.Played (·.tick.toNat) settings.scenario.restarts n := by
  intro bucketed cluster
  obtain ⟨current, same⟩ := current_evolve settings orders n
  have plan := (Cluster.initial settings).plan_evolve orders n
  have changes : bucketed.cluster.intentChanges = settings.scenario.intentChanges :=
    (congrArg Cluster.intentChanges same).trans (congrArg Plan.intentChanges plan)
  have restarts : bucketed.cluster.restarts = settings.scenario.restarts :=
    (congrArg Cluster.restarts same).trans (congrArg Plan.restarts plan)
  have tick : bucketed.cluster.tick = n :=
    (congrArg Cluster.tick same).trans
      (((Cluster.initial settings).tick_evolve orders n).trans (Nat.zero_add n))
  refine ⟨?_, ?_, ?_⟩
  · rw [current.advanceVisiting_eq, same, Functor.map_map]
    exact id_map' _
  · rw [← changes, ← tick]
    exact current.changes
  · rw [← restarts, ← tick]
    exact current.restarts

end Bucketed

end Cluster

end Handover
