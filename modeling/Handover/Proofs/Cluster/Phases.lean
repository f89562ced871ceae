import Handover.Cluster.Run
import Handover.Proofs.Process

/-! # The phases of a tick

A tick is a sequence of phases: changes of intent, restarts, delivery, in some ticks a rescan, and the
enforcers with their requests.  For each phase an equation says what becomes of the entities and of
every single process; all phases treat the processes one by one.  What a cluster was told by its
settings never changes (`plan`), and only the start of a tick counts it.

Which entity a process looks at again first is not determined.  A `VisitOrder` is any way to do it, and
`evolve` runs a cluster with an order of its own for every tick.
-/

namespace Handover

/-- An order in which each process may look again at the entities it may hand over. -/
structure VisitOrder where
  arrange : WorkerName → List EntityId → List EntityId
  perm : ∀ worker entities, (arrange worker entities).Perm entities

def VisitOrder.ascending : VisitOrder where
  arrange _ entities := entities
  perm _ _ := .refl _

instance : Inhabited VisitOrder := ⟨.ascending⟩

theorem TickSummary.foldl_count (summary : TickSummary)
    (outcomes : List WriteOutcome) :
    outcomes.foldl TickSummary.count summary =
      ⟨summary.requests, summary.handovers + outcomes.count .handover,
        summary.rejected + outcomes.count .rejected⟩ := by
  induction outcomes generalizing summary with
  | nil => rfl
  | cons outcome outcomes ih =>
    rw [List.foldl_cons, ih]
    cases outcome <;> simp [TickSummary.count] <;> omega

namespace Cluster

/-! ## Runs in any order -/

/-- One tick in a given order: what happened and the cluster after it. -/
def tickIn (cluster : Cluster) (order : VisitOrder) : TickSummary × Cluster :=
  (cluster.advanceVisiting order.arrange).value

/-- The cluster after so many ticks, the first of them in the order `orders 0`. -/
def evolve (cluster : Cluster) (orders : Nat → VisitOrder) : Nat → Cluster
  | 0 => cluster
  | n + 1 => ((cluster.evolve orders n).tickIn (orders n)).2

/-- The cluster of a tick at the time its enforcers decide. -/
def prepared (cluster : Cluster) (order : VisitOrder) : Cluster :=
  (cluster.prepare order.arrange).value

/-- What all enforcers ask for in a tick; nothing if load balancing is off. -/
def collected (cluster : Cluster) (order : VisitOrder) : List (WorkerName × AclRequest) :=
  if cluster.loadBalancing then (cluster.prepared order).requests else []

theorem evolve_succ' (cluster : Cluster) (orders : Nat → VisitOrder) (n : Nat) :
    cluster.evolve orders (n + 1) =
      (cluster.tickIn (orders 0)).2.evolve (fun k => orders (k + 1)) n := by
  induction n with
  | zero => rfl
  | succ n ih => rw [evolve, ih]; rfl

/-- The run of a cluster that visits its entities in ascending order is one of these runs. -/
theorem value_run (cluster : Cluster) (n : Nat) :
    cluster.after (cluster.run n) = cluster.evolve (fun _ => .ascending) n := by
  induction n generalizing cluster with
  | zero => rfl
  | succ n ih =>
    rw [evolve_succ', run]
    have next : cluster.turn.cluster = (cluster.tickIn .ascending).2 := rfl
    rw [← next, ← ih, after, after]
    rw [List.getLast?_cons]
    cases (cluster.turn.cluster.run n).getLast? with
    | none => rfl
    | some last => rfl

/-! ## What never changes -/

/-- What a cluster was told by its settings. -/
structure Plan where
  mapping : MappingUpdate
  loadBalancing : Bool
  rescanInterval : Nat
  intentChanges : List IntentChange
  restarts : List WorkerRestart

def plan (cluster : Cluster) : Plan where
  mapping := cluster.mapping
  loadBalancing := cluster.loadBalancing
  rescanInterval := cluster.rescanInterval
  intentChanges := cluster.intentChanges
  restarts := cluster.restarts

/-- Both clusters were told the same by their settings, and they are in the same tick. -/
def Abreast (before after : Cluster) : Prop := after.plan = before.plan ∧ after.tick = before.tick

theorem Abreast.trans {first second third : Cluster} (left : Abreast first second)
    (right : Abreast second third) : Abreast first third :=
  ⟨right.1.trans left.1, right.2.trans left.2⟩

/-! ## Changes of intent -/

def setIntents (cluster : Cluster) (changes : List IntentChange) : Cluster :=
  changes.foldl (fun cluster change => (cluster.setIntent change).value) cluster

theorem setIntents_cons (cluster : Cluster) (change : IntentChange) (changes : List IntentChange) :
    cluster.setIntents (change :: changes) =
      (cluster.setIntent change).value.setIntents changes := rfl

theorem value_setIntent {cluster : Cluster} {change : IntentChange} {state : EntityState}
    (present : cluster.entities[change.entity]? = some state) :
    (cluster.setIntent change).value =
      { cluster with
        entities := cluster.entities.insert change.entity { state with intent := change.intent }
        processes := cluster.processes.map
          (·.sendAll [.updateComponent change.entity (.intent change.intent)]) } := by
  rw [setIntent, present]
  rfl

theorem value_setIntent_of_absent {cluster : Cluster} {change : IntentChange}
    (absent : cluster.entities[change.entity]? = none) :
    (cluster.setIntent change).value = cluster := by
  rw [setIntent, absent]
  rfl

theorem abreast_setIntent (cluster : Cluster) (change : IntentChange) :
    Abreast cluster (cluster.setIntent change).value := by
  cases present : cluster.entities[change.entity]? with
  | none => rw [value_setIntent_of_absent present]; exact ⟨rfl, rfl⟩
  | some state => rw [value_setIntent present]; exact ⟨rfl, rfl⟩

theorem abreast_setIntents (cluster : Cluster) (changes : List IntentChange) :
    Abreast cluster (cluster.setIntents changes) :=
  List.foldlRecOn changes _ (motive := Abreast cluster) ⟨rfl, rfl⟩
    fun c same change _ => same.trans (c.abreast_setIntent change)

/-! ## Restarts -/

/-- The process that takes the place of a restarted one. -/
def replacement (cluster : Cluster) (worker : WorkerName) : Process :=
  .boot worker [cluster.mapping.without worker, cluster.mapping] (snapshot cluster.entities worker)

def restartAll (cluster : Cluster) (restarts : List WorkerRestart) : Cluster :=
  restarts.foldl (fun cluster due => (cluster.restart due.worker).value) cluster

theorem value_restart (cluster : Cluster) (worker : WorkerName) :
    (cluster.restart worker).value =
      { cluster with
        processes := cluster.processes.map fun p =>
          if p.name = worker then cluster.replacement worker else p } := by
  rw [restart]
  split
  case isTrue => rfl
  case isFalse nobody =>
    -- nobody has the name, so replacing the processes with it replaces none
    have unchanged : cluster.processes.map
        (fun p => if p.name = worker then cluster.replacement worker else p) =
          cluster.processes := by
      refine (List.map_congr_left fun p member => if_neg fun named => nobody ?_).trans (List.map_id _)
      exact List.any_eq_true.mpr ⟨p, member, decide_eq_true named⟩
    rw [unchanged]
    rfl

/-- Restarting several workers replaces their processes and nothing else. -/
theorem restartAll_eq (cluster : Cluster) (restarts : List WorkerRestart) :
    cluster.restartAll restarts =
      { cluster with
        processes := cluster.processes.map fun p =>
          if p.name ∈ restarts.map (·.worker) then cluster.replacement p.name else p } := by
  induction restarts generalizing cluster with
  | nil => simp [restartAll]
  | cons due restarts ih =>
    rw [restartAll, List.foldl_cons, ← restartAll, ih, value_restart]
    congr 1
    rw [List.map_map]
    refine List.map_congr_left fun p _ => ?_
    simp only [Function.comp_apply, List.map_cons, List.mem_cons]
    by_cases here : p.name = due.worker
    · -- a worker that restarts twice in a tick is replaced by the same process again
      simp only [here, if_true, true_or]
      split <;> rfl
    · simp only [here, if_false, false_or]
      rfl

/-! ## The scripts -/

def changesDue (changes : List IntentChange) (tick : Nat) : List IntentChange :=
  changes.filter (·.tick.toNat = tick)

def restartsDue (restarts : List WorkerRestart) (tick : Nat) : List WorkerRestart :=
  restarts.filter (·.tick.toNat = tick)

def nextTick (cluster : Cluster) : Cluster := { cluster with tick := cluster.tick + 1 }

theorem value_playScripts (cluster : Cluster) :
    cluster.playScripts.value =
      (cluster.nextTick.setIntents (changesDue cluster.intentChanges (cluster.tick + 1))).restartAll
        (restartsDue cluster.restarts (cluster.tick + 1)) := by
  obtain ⟨samePlan, sameTick⟩ := cluster.nextTick.abreast_setIntents
    (changesDue cluster.intentChanges (cluster.tick + 1))
  have sameRestarts := congrArg Plan.restarts samePlan
  simp only [plan] at sameRestarts
  -- changes of intent leave the script of restarts and the tick alone
  have due : (cluster.nextTick.setIntents
      (changesDue cluster.intentChanges (cluster.tick + 1))).dueRestarts =
        restartsDue cluster.restarts (cluster.tick + 1) := by
    rw [dueRestarts, sameRestarts, sameTick]
    rfl
  rw [← due]
  simp only [playScripts, Logged.value_bind, Logged.value_foldlM]
  rfl

/-! ## Delivery, rescan and decision -/

theorem value_eachProcess (cluster : Cluster) (f : Process → Logged Event Process) :
    (cluster.eachProcess f).value =
      { cluster with processes := cluster.processes.map fun p => (f p).value } := by
  simp [eachProcess]

def delivered (cluster : Cluster) : Cluster := (cluster.eachProcess Process.deliver).value

/-- The cluster after all processes looked again at their entities. -/
def rescanned (cluster : Cluster) (order : VisitOrder) : Cluster :=
  (cluster.eachProcess fun p => p.rescan (order.arrange p.name)).value

/-- The cluster after all enforcers decided and before their requests are applied. -/
def decided (cluster : Cluster) : Cluster := (cluster.eachProcess Process.coordinate).value

theorem abreast_eachProcess (cluster : Cluster) (f : Process → Logged Event Process) :
    Abreast cluster (cluster.eachProcess f).value := ⟨rfl, rfl⟩

theorem prepared_eq (cluster : Cluster) (order : VisitOrder) :
    cluster.prepared order =
      if cluster.playScripts.value.delivered.rescanDue then
        cluster.playScripts.value.delivered.rescanned order
      else cluster.playScripts.value.delivered := by
  simp only [prepared, prepare, Logged.value_bind]
  split
  case isTrue due => exact (if_pos due).symm
  case isFalse due => exact (if_neg due).symm

theorem abreast_delivered (cluster : Cluster) :
    Abreast cluster.nextTick cluster.playScripts.value.delivered := by
  have scripts : Abreast cluster.nextTick cluster.playScripts.value := by
    rw [value_playScripts, restartAll_eq]
    exact cluster.nextTick.abreast_setIntents _
  exact scripts.trans (abreast_eachProcess _ _)

theorem abreast_prepared (cluster : Cluster) (order : VisitOrder) :
    Abreast cluster.nextTick (cluster.prepared order) := by
  rw [prepared_eq]
  split
  · exact cluster.abreast_delivered.trans (abreast_eachProcess _ _)
  · exact cluster.abreast_delivered

/-- Of all that comes before the enforcers, only the changes of intent touch the entities. -/
theorem entities_prepared (cluster : Cluster) (order : VisitOrder) :
    (cluster.prepared order).entities =
      (cluster.nextTick.setIntents
        (changesDue cluster.intentChanges (cluster.tick + 1))).entities := by
  have scripts : cluster.playScripts.value.entities = (cluster.nextTick.setIntents
      (changesDue cluster.intentChanges (cluster.tick + 1))).entities := by
    rw [value_playScripts, restartAll_eq]
  rw [prepared_eq, ← scripts]
  split <;> rfl

/-! ## Requests -/

theorem handOver_eq (cluster : Cluster) (state : EntityState) (request : AclRequest) :
    cluster.handOver state request =
      { cluster with
        entities := cluster.entities.insert request.entity
          { state with owner := request.owner, acl := request.accessList }
        processes := cluster.processes.map fun p =>
          p.sendAll (View.handoverMessages request.entity request.accessList state.owner
            request.owner p.name) } := by
  simp only [handOver, send, broadcast, List.map_map]
  congr 1
  refine List.map_congr_left fun p _ => ?_
  simp only [Function.comp_apply, View.handoverMessages, Process.send_eq_sendAll]
  -- sending does not rename a process, so each of the two names is looked for as it was before
  by_cases loser : p.name = state.owner
  · rw [Process.name_sendAll, if_pos loser, if_pos loser, Process.sendAll_sendAll,
      Process.name_sendAll]
    by_cases winner : p.name = request.owner
    · rw [if_pos winner, if_pos winner, Process.sendAll_sendAll]
      rfl
    · rw [if_neg winner, if_neg winner]
      rfl
  · rw [Process.name_sendAll, if_neg loser, if_neg loser, Process.name_sendAll]
    by_cases winner : p.name = request.owner
    · rw [if_pos winner, if_pos winner, Process.sendAll_sendAll]
      rfl
    · rw [if_neg winner, if_neg winner]
      rfl

/-- A request of the owner for a worker of the cluster is not rejected. -/
theorem value_applyRequest_of_owner {cluster : Cluster} {request : AclRequest} {state : EntityState}
    (present : cluster.entities[request.entity]? = some state)
    (known : request.owner ∈ cluster.processes.map (·.name)) :
    (cluster.applyRequest state.owner request).value =
      if state.owner = request.owner then (.unchanged, cluster)
      else (.handover, cluster.handOver state request) := by
  have listed : cluster.processes.any (·.name = request.owner) = true := by
    simpa [List.any_eq_true] using known
  rw [applyRequest, present]
  simp only [ne_eq, not_true_eq_false, if_false, listed, Bool.not_true, Bool.false_eq_true]
  split <;> rfl

/-- A request is applied in one of three ways: it is rejected and changes nothing, it finds the entity
where it wants it, or it hands the entity over. -/
theorem value_applyRequest (cluster : Cluster) (issuer : WorkerName) (request : AclRequest) :
    (cluster.applyRequest issuer request).value = (.rejected, cluster) ∨
      ∃ state, cluster.entities[request.entity]? = some state ∧ state.owner = issuer ∧
        request.owner ∈ cluster.processes.map (·.name) ∧
        (cluster.applyRequest issuer request).value =
          if state.owner = request.owner then (.unchanged, cluster)
          else (.handover, cluster.handOver state request) := by
  cases present : cluster.entities[request.entity]? with
  | none => exact .inl (by rw [applyRequest, present]; rfl)
  | some state =>
    -- the checks of a request, in their order; the first that fails rejects it
    by_cases owned : state.owner = issuer
    · subst owned
      by_cases known : request.owner ∈ cluster.processes.map (·.name)
      · exact .inr ⟨state, rfl, rfl, known, value_applyRequest_of_owner present known⟩
      · refine .inl ?_
        have stranger : cluster.processes.any (·.name = request.owner) = false := by
          simpa [List.any_eq_false] using known
        rw [applyRequest, present]
        simp only [ne_eq, not_true_eq_false, if_false, stranger, Bool.not_false, if_true]
        rfl
    · refine .inl ?_
      rw [applyRequest, present]
      simp only [ne_eq, owned, not_false_eq_true, if_true]
      rfl

theorem abreast_applyRequest (cluster : Cluster) (issuer : WorkerName) (request : AclRequest) :
    Abreast cluster (cluster.applyRequest issuer request).value.2 := by
  rcases cluster.value_applyRequest issuer request with same | ⟨state, _, _, _, applied⟩
  · rw [same]
    exact ⟨rfl, rfl⟩
  · rw [applied]
    split
    · exact ⟨rfl, rfl⟩
    · rw [handOver_eq]
      exact ⟨rfl, rfl⟩

def applyAll (cluster : Cluster) (requests : List (WorkerName × AclRequest)) : Cluster :=
  requests.foldl (fun cluster row => (cluster.applyRequest row.1 row.2).value.2) cluster

def outcomes (cluster : Cluster) : List (WorkerName × AclRequest) → List WriteOutcome
  | [] => []
  | (issuer, request) :: requests =>
    let (outcome, next) := (cluster.applyRequest issuer request).value
    outcome :: next.outcomes requests

theorem abreast_applyAll (cluster : Cluster) (requests : List (WorkerName × AclRequest)) :
    Abreast cluster (cluster.applyAll requests) :=
  List.foldlRecOn requests _ (motive := Abreast cluster) ⟨rfl, rfl⟩
    fun c same row _ => same.trans (c.abreast_applyRequest row.1 row.2)

theorem applyAll_cons (cluster : Cluster) (row : WorkerName × AclRequest)
    (requests : List (WorkerName × AclRequest)) :
    cluster.applyAll (row :: requests) =
      (cluster.applyRequest row.1 row.2).value.2.applyAll requests := rfl

theorem outcomes_cons (cluster : Cluster) (row : WorkerName × AclRequest)
    (requests : List (WorkerName × AclRequest)) :
    cluster.outcomes (row :: requests) =
      (cluster.applyRequest row.1 row.2).value.1 ::
        (cluster.applyRequest row.1 row.2).value.2.outcomes requests := rfl

theorem value_applyRequests (cluster : Cluster) (requests : List (WorkerName × AclRequest)) :
    (cluster.applyRequests requests).value =
      (⟨requests.length, (cluster.outcomes requests).count .handover,
        (cluster.outcomes requests).count .rejected⟩, cluster.applyAll requests) := by
  -- the fold starts from a summary that already counts the requests, so the induction is over any
  have general (summary : TickSummary) (rows : List (WorkerName × AclRequest)) :
      (rows.foldl (fun (state : TickSummary × Cluster) row =>
        (state.1.count (state.2.applyRequest row.1 row.2).value.1,
          (state.2.applyRequest row.1 row.2).value.2)) (summary, cluster)) =
        ((cluster.outcomes rows).foldl TickSummary.count summary, cluster.applyAll rows) := by
    induction rows generalizing summary cluster with
    | nil => rfl
    | cons row rows ih => exact ih _ _
  rw [applyRequests, Logged.value_foldlM]
  refine (general _ requests).trans ?_
  rw [TickSummary.foldl_count, Nat.zero_add, Nat.zero_add]

/-! ## The tick as a whole -/

theorem tickIn_eq (cluster : Cluster) (order : VisitOrder) :
    cluster.tickIn order =
      (if (cluster.prepared order).loadBalancing then (cluster.prepared order).coordinate
        else pure (.quiet, cluster.prepared order)).value := rfl

theorem loadBalancing_prepared (cluster : Cluster) (order : VisitOrder) :
    (cluster.prepared order).loadBalancing = cluster.loadBalancing :=
  congrArg Plan.loadBalancing (cluster.abreast_prepared order).1

theorem tickIn_of_off {cluster : Cluster} (off : cluster.loadBalancing = false)
    (order : VisitOrder) : cluster.tickIn order = (.quiet, cluster.prepared order) := by
  rw [tickIn_eq, loadBalancing_prepared, off]
  rfl

theorem tickIn_of_on {cluster : Cluster} (on : cluster.loadBalancing = true)
    (order : VisitOrder) :
    cluster.tickIn order = (cluster.prepared order).coordinate.value := by
  rw [tickIn_eq, loadBalancing_prepared, if_pos on]

/-- The enforcers decide first, and then their requests are applied in order. -/
theorem value_coordinate (cluster : Cluster) :
    cluster.coordinate.value =
      (⟨cluster.requests.length, (cluster.decided.outcomes cluster.requests).count .handover,
          (cluster.decided.outcomes cluster.requests).count .rejected⟩,
        { cluster.decided.applyAll cluster.requests with
          handovers := (cluster.decided.applyAll cluster.requests).handovers +
            (cluster.decided.outcomes cluster.requests).count .handover }) := by
  simp only [coordinate, decided, Logged.value_bind, value_applyRequests]
  split <;> rfl

theorem fst_coordinate (cluster : Cluster) :
    cluster.coordinate.value.1 =
      ⟨cluster.requests.length, (cluster.decided.outcomes cluster.requests).count .handover,
        (cluster.decided.outcomes cluster.requests).count .rejected⟩ := by
  rw [value_coordinate]

theorem abreast_countHandovers (cluster : Cluster) (handovers : Nat) :
    Abreast cluster { cluster with handovers } := ⟨rfl, rfl⟩

theorem abreast_tickIn (cluster : Cluster) (order : VisitOrder) :
    Abreast cluster.nextTick (cluster.tickIn order).2 := by
  have before := cluster.abreast_prepared order
  cases balanced : cluster.loadBalancing with
  | false => rw [tickIn_of_off balanced]; exact before
  | true =>
    rw [tickIn_of_on balanced, value_coordinate]
    have decides := before.trans (abreast_eachProcess _ Process.coordinate)
    exact (decides.trans (abreast_applyAll _ _)).trans (abreast_countHandovers _ _)

theorem plan_evolve (cluster : Cluster) (orders : Nat → VisitOrder) (n : Nat) :
    (cluster.evolve orders n).plan = cluster.plan := by
  induction n with
  | zero => rfl
  | succ n ih => exact ((abreast_tickIn _ _).1).trans ih

theorem tick_evolve (cluster : Cluster) (orders : Nat → VisitOrder) (n : Nat) :
    (cluster.evolve orders n).tick = cluster.tick + n := by
  induction n with
  | zero => rfl
  | succ n ih => exact ((abreast_tickIn _ _).2).trans (congrArg (· + 1) ih)

end Cluster

end Handover
