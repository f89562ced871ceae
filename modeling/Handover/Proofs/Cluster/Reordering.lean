import Handover.Proofs.Locality
import Handover.Proofs.Cluster.Requests
import Mathlib.Data.List.Forall2

/-! # The order of a scenario and of a rescan does not show

A scenario lists entities, restarts and changes of intent in some order, and a rescan visits entities
in some order.  None of it can be told from what the cluster does, except that changes of intent of one
and the same entity must keep their order.

The two runs are not equal, since queues and inboxes are filled in different orders.  They stay equal
up to the order of what concerns different entities (`EqUpToOrder`).  The non-trivial ingredient is
that all that a script or a request does to a cluster is to amend one entity and to tell every process
of it, and that amendments of different entities may be swapped (`amend_comm`).
-/

namespace Handover

/-! ## Processes -/

namespace Process

theorem nodup_held (process : Process) : process.held.Nodup :=
  process.view.entities.nodup_keys.filter _

/-- The processes are the same up to the order of what concerns different entities. -/
structure EqUpToOrder (p q : Process) : Prop where
  name : p.name = q.name
  translator : p.translator = q.translator
  view : p.view = q.view
  enforcer : p.enforcer.EqUpToOrder q.enforcer
  mappings : p.mappings = q.mappings
  inbox : Rearranged WorkerOp.entity p.inbox q.inbox

namespace EqUpToOrder

theorem equivalence : Equivalence EqUpToOrder where
  refl _ := ⟨rfl, rfl, rfl, Enforcer.EqUpToOrder.equivalence.refl _, rfl, .refl _ _⟩
  symm same := ⟨same.name.symm, same.translator.symm, same.view.symm,
    Enforcer.EqUpToOrder.equivalence.symm same.enforcer, same.mappings.symm, same.inbox.symm⟩
  trans left right := ⟨left.name.trans right.name, left.translator.trans right.translator,
    left.view.trans right.view, Enforcer.EqUpToOrder.equivalence.trans left.enforcer right.enforcer,
    left.mappings.trans right.mappings, left.inbox.trans right.inbox⟩

variable {p q : Process}

theorem sendAll (same : p.EqUpToOrder q) {ops ops' : List WorkerOp}
    (rearranged : Rearranged WorkerOp.entity ops ops') :
    (p.sendAll ops).EqUpToOrder (q.sendAll ops') :=
  { same with inbox := same.inbox.append rearranged }

theorem deliver (same : p.EqUpToOrder q) : p.deliver.value.EqUpToOrder q.deliver.value := by
  rw [value_deliver, value_deliver]
  exact {
    name := same.name
    translator := by rw [same.translator, same.mappings]
    view := by rw [outlook, outlook, same.view, q.view.replay_rearranged same.inbox]
    enforcer := same.enforcer.handleAll same.inbox
    mappings := congrArg List.tail same.mappings
    inbox := .refl _ _ }

theorem rescan (same : p.EqUpToOrder q) {visit visit' : List EntityId → List EntityId}
    (perm : ∀ entities, (visit entities).Perm entities)
    (perm' : ∀ entities, (visit' entities).Perm entities) :
    (p.rescan visit).value.EqUpToOrder (q.rescan visit').value := by
  have sameHeld : p.held = q.held := by rw [held, held, same.view]
  have visited : (visit p.held).Perm (visit' q.held) := by
    rw [sameHeld]
    exact (perm _).trans (perm' _).symm
  have distinct : (visit p.held).Nodup := (perm _).nodup_iff.mpr p.nodup_held
  rw [value_rescan, value_rescan]
  exact { same with enforcer := same.enforcer.queueAll visited distinct }

theorem coordinate (same : p.EqUpToOrder q) :
    p.coordinate.value.EqUpToOrder q.coordinate.value := by
  rw [value_coordinate, value_coordinate, same.view, same.translator]
  exact ⟨same.name, rfl, rfl, same.enforcer.process q.view q.translator, same.mappings, same.inbox⟩

theorem perm_requests (same : p.EqUpToOrder q) : p.requests.Perm q.requests := by
  rw [requests, requests, same.view, same.translator]
  exact same.enforcer.perm_requests q.view q.translator

end EqUpToOrder

end Process

theorem forall₂_equivalence {α : Type} {R : α → α → Prop} (equiv : Equivalence R) :
    Equivalence (List.Forall₂ R) where
  refl l := List.forall₂_same.mpr fun a _ => equiv.refl a
  symm same := by
    induction same with
    | nil => exact .nil
    | cons head _ ih => exact .cons (equiv.symm head) ih
  trans {l m n} left right := by
    induction left generalizing n with
    | nil => exact right
    | cons head _ ih =>
      cases right with
      | cons head' tail' => exact .cons (equiv.trans head head') (ih tail')

namespace Cluster

/-- The clusters are the same up to the order of what concerns different entities. -/
structure EqUpToOrder (c d : Cluster) : Prop where
  processes : List.Forall₂ Process.EqUpToOrder c.processes d.processes
  entities : c.entities = d.entities
  mapping : c.mapping = d.mapping
  loadBalancing : c.loadBalancing = d.loadBalancing
  rescanInterval : c.rescanInterval = d.rescanInterval
  intentChanges : Rearranged IntentChange.entity c.intentChanges d.intentChanges
  restarts : c.restarts.Perm d.restarts
  tick : c.tick = d.tick
  handovers : c.handovers = d.handovers

theorem EqUpToOrder.equivalence : Equivalence EqUpToOrder where
  refl _ := ⟨(forall₂_equivalence Process.EqUpToOrder.equivalence).refl _, rfl, rfl, rfl, rfl,
    .refl _ _, .refl _, rfl, rfl⟩
  symm same := ⟨(forall₂_equivalence Process.EqUpToOrder.equivalence).symm same.processes,
    same.entities.symm, same.mapping.symm, same.loadBalancing.symm, same.rescanInterval.symm,
    same.intentChanges.symm, same.restarts.symm, same.tick.symm, same.handovers.symm⟩
  trans left right := ⟨(forall₂_equivalence Process.EqUpToOrder.equivalence).trans left.processes
      right.processes,
    left.entities.trans right.entities, left.mapping.trans right.mapping,
    left.loadBalancing.trans right.loadBalancing, left.rescanInterval.trans right.rescanInterval,
    left.intentChanges.trans right.intentChanges, left.restarts.trans right.restarts,
    left.tick.trans right.tick, left.handovers.trans right.handovers⟩

theorem EqUpToOrder.map {c d : Cluster} (same : c.EqUpToOrder d) {f g : Process → Process}
    (each : ∀ p q, p.EqUpToOrder q → (f p).EqUpToOrder (g q)) :
    { c with processes := c.processes.map f }.EqUpToOrder
      { d with processes := d.processes.map g } :=
  { same with
    processes := by
      rw [List.forall₂_map_left_iff, List.forall₂_map_right_iff]
      exact same.processes.imp each }

/-! ## Amendments -/

theorem EqUpToOrder.amend {c d : Cluster} (same : c.EqUpToOrder d) {entity : EntityId}
    (amendment : Option (Amendment entity)) :
    (c.amend amendment).EqUpToOrder (d.amend amendment) := by
  cases amendment with
  | none => exact same
  | some amendment =>
    have told (p q : Process) (alike : p.EqUpToOrder q) :
        (p.sendAll (amendment.mail p.name)).EqUpToOrder (q.sendAll (amendment.mail q.name)) := by
      rw [alike.name]
      exact alike.sendAll (.refl _ _)
    exact { same.map told with entities := by rw [Cluster.amend, Cluster.amend, same.entities] }

/-- Amendments of different entities may be swapped.  Only the inboxes tell the order of the two. -/
theorem amend_comm (cluster : Cluster) {e e' : EntityId} (apart : e ≠ e')
    (a : Option (Amendment e)) (b : Option (Amendment e')) :
    ((cluster.amend a).amend b).EqUpToOrder ((cluster.amend b).amend a) := by
  cases a with
  | none => exact EqUpToOrder.equivalence.refl _
  | some a =>
    cases b with
    | none => exact EqUpToOrder.equivalence.refl _
    | some b =>
      have refl := EqUpToOrder.equivalence.refl cluster
      refine { refl with processes := ?processes, entities := ?entities }
      case entities =>
        refine Std.ExtTreeMap.ext_getElem? fun entity => ?_
        simp only [amend, Std.ExtTreeMap.getElem?_insert, Std.LawfulEqCmp.compare_eq_iff_eq]
        by_cases here : e = entity
        · have there : e' ≠ entity := fun same => apart (here.trans same.symm)
          rw [if_neg there, if_pos here, if_pos here]
        · rw [if_neg here, if_neg here]
      case processes =>
        -- each process gets the same two mails, in one order or the other
        simp only [amend, List.map_map]
        rw [List.forall₂_map_left_iff, List.forall₂_map_right_iff, List.forall₂_same]
        intro p _
        have mails : Rearranged WorkerOp.entity (a.mail p.name ++ b.mail p.name)
            (b.mail p.name ++ a.mail p.name) := by
          refine .append_comm fun op sent op' sent' => ?_
          rw [a.about p.name op sent, b.about p.name op' sent']
          exact apart
        simp only [Function.comp_apply, Process.name_sendAll, Process.sendAll_sendAll]
        exact (Process.EqUpToOrder.equivalence.refl p).sendAll mails

theorem EqUpToOrder.judgement_eq {c d : Cluster} (same : c.EqUpToOrder d) (issuer : WorkerName)
    (request : AclRequest) : c.judgement issuer request = d.judgement issuer request := by
  have names : c.processes.map (·.name) = d.processes.map (·.name) := by
    rw [← List.forall₂_eq_eq_eq, List.forall₂_map_left_iff, List.forall₂_map_right_iff]
    exact same.processes.imp fun _ _ alike => alike.name
  rw [judgement, judgement, same.entities, names]

/-! ## Changes of intent, restarts and requests -/

theorem EqUpToOrder.setIntent {c d : Cluster} (same : c.EqUpToOrder d) (change : IntentChange) :
    (c.setIntent change).value.EqUpToOrder (d.setIntent change).value := by
  rw [value_setIntent_eq_amend, value_setIntent_eq_amend, same.entities]
  exact same.amend _

theorem setIntent_comm (cluster : Cluster) {change change' : IntentChange}
    (apart : change.entity ≠ change'.entity) :
    ((cluster.setIntent change).value.setIntent change').value.EqUpToOrder
      ((cluster.setIntent change').value.setIntent change).value := by
  rw [value_setIntent_eq_amend, value_setIntent_eq_amend, value_setIntent_eq_amend,
    value_setIntent_eq_amend, getElem?_amend_of_ne _ apart, getElem?_amend_of_ne _ apart.symm]
  exact cluster.amend_comm apart _ _

theorem EqUpToOrder.setIntents {c d : Cluster} (same : c.EqUpToOrder d)
    {changes changes' : List IntentChange}
    (rearranged : Rearranged IntentChange.entity changes changes') :
    (c.setIntents changes).EqUpToOrder (d.setIntents changes') :=
  rearranged.foldl equivalence (fun change same => same.setIntent change)
    (fun cluster _ _ apart => cluster.setIntent_comm apart) same

theorem EqUpToOrder.restartAll {c d : Cluster} (same : c.EqUpToOrder d)
    {restarts restarts' : List WorkerRestart} (perm : restarts.Perm restarts') :
    (c.restartAll restarts).EqUpToOrder (d.restartAll restarts') := by
  rw [restartAll_eq, restartAll_eq]
  refine same.map fun p q alike => ?_
  have named (worker : WorkerName) :
      worker ∈ restarts.map (·.worker) ↔ worker ∈ restarts'.map (·.worker) :=
    (perm.map _).mem_iff
  rw [alike.name, replacement, replacement, same.entities, same.mapping]
  simp only [named]
  -- a replacement depends on nothing that the two clusters do not share
  split
  · exact Process.EqUpToOrder.equivalence.refl _
  · exact alike

/-- Applies one of the requests of a tick and counts what became of it. -/
def applyNext (tally : TickSummary × Cluster) (row : WorkerName × AclRequest) :
    TickSummary × Cluster :=
  (tally.1.count (tally.2.applyRequest row.1 row.2).value.1,
    (tally.2.applyRequest row.1 row.2).value.2)

theorem value_applyRequests_eq_foldl (cluster : Cluster)
    (requests : List (WorkerName × AclRequest)) :
    (cluster.applyRequests requests).value =
      requests.foldl applyNext (⟨requests.length, 0, 0⟩, cluster) := by
  rw [applyRequests, Logged.value_foldlM]
  rfl

theorem count_comm (summary : TickSummary) (outcome outcome' : WriteOutcome) :
    (summary.count outcome).count outcome' = (summary.count outcome').count outcome := by
  cases outcome <;> cases outcome' <;> rfl

/-- The same was counted, and the clusters are the same up to order. -/
structure TallyUpToOrder (s t : TickSummary × Cluster) : Prop where
  summary : s.1 = t.1
  cluster : s.2.EqUpToOrder t.2

namespace TallyUpToOrder

theorem equivalence : Equivalence TallyUpToOrder where
  refl _ := ⟨rfl, EqUpToOrder.equivalence.refl _⟩
  symm same := ⟨same.summary.symm, EqUpToOrder.equivalence.symm same.cluster⟩
  trans left right := ⟨left.summary.trans right.summary,
    EqUpToOrder.equivalence.trans left.cluster right.cluster⟩

theorem applyNext {s t : TickSummary × Cluster} (same : TallyUpToOrder s t)
    (row : WorkerName × AclRequest) : TallyUpToOrder (applyNext s row) (applyNext t row) := by
  rw [Cluster.applyNext, Cluster.applyNext, value_applyRequest_eq_amend,
    value_applyRequest_eq_amend, same.cluster.judgement_eq, same.summary]
  exact ⟨rfl, same.cluster.amend _⟩

theorem applyNext_comm (s : TickSummary × Cluster) {row row' : WorkerName × AclRequest}
    (apart : row.2.entity ≠ row'.2.entity) :
    TallyUpToOrder (Cluster.applyNext (Cluster.applyNext s row) row')
      (Cluster.applyNext (Cluster.applyNext s row') row) := by
  simp only [Cluster.applyNext, value_applyRequest_eq_amend]
  rw [judgement_amend_of_ne _ _ _ apart, judgement_amend_of_ne _ _ _ apart.symm]
  exact ⟨count_comm _ _ _, s.2.amend_comm apart _ _⟩

end TallyUpToOrder

theorem EqUpToOrder.applyRequests {c d : Cluster} (same : c.EqUpToOrder d)
    {requests requests' : List (WorkerName × AclRequest)} (perm : requests.Perm requests')
    (distinct : (requests.map (·.2.entity)).Nodup) :
    TallyUpToOrder (c.applyRequests requests).value (d.applyRequests requests').value := by
  have rearranged : Rearranged (·.2.entity) requests requests' := .of_perm perm distinct
  rw [value_applyRequests_eq_foldl, value_applyRequests_eq_foldl, perm.length_eq]
  exact rearranged.foldl TallyUpToOrder.equivalence (fun row same => same.applyNext row)
    (fun tally _ _ apart => TallyUpToOrder.applyNext_comm tally apart) ⟨rfl, same⟩

/-! ## The phases of a tick -/

namespace EqUpToOrder

variable {c d : Cluster}

theorem eachProcess (same : c.EqUpToOrder d) {f g : Process → Logged Event Process}
    (each : ∀ p q, p.EqUpToOrder q → (f p).value.EqUpToOrder (g q).value) :
    (c.eachProcess f).value.EqUpToOrder (d.eachProcess g).value := by
  rw [value_eachProcess, value_eachProcess]
  exact same.map each

theorem playScripts (same : c.EqUpToOrder d) :
    c.playScripts.value.EqUpToOrder d.playScripts.value := by
  rw [value_playScripts, value_playScripts, same.tick]
  have next : c.nextTick.EqUpToOrder d.nextTick := { same with tick := congrArg (· + 1) same.tick }
  exact (next.setIntents (same.intentChanges.filter _)).restartAll (same.restarts.filter _)

theorem delivered (same : c.EqUpToOrder d) : c.delivered.EqUpToOrder d.delivered :=
  same.eachProcess fun _ _ alike => alike.deliver

theorem rescanned (same : c.EqUpToOrder d) (order order' : VisitOrder) :
    (c.rescanned order).EqUpToOrder (d.rescanned order') :=
  same.eachProcess fun p q alike => alike.rescan (order.perm p.name) (order'.perm q.name)

theorem prepared (same : c.EqUpToOrder d) (order order' : VisitOrder) :
    (c.prepared order).EqUpToOrder (d.prepared order') := by
  have delivered := same.playScripts.delivered
  rw [prepared_eq, prepared_eq, rescanDue, rescanDue, delivered.rescanInterval, delivered.tick]
  split
  · exact delivered.rescanned order order'
  · exact delivered

theorem decided (same : c.EqUpToOrder d) : c.decided.EqUpToOrder d.decided :=
  same.eachProcess fun _ _ alike => alike.coordinate

theorem perm_requests (same : c.EqUpToOrder d) : c.requests.Perm d.requests := by
  have processes := same.processes
  rw [requests, requests]
  generalize c.processes = ps at processes ⊢
  generalize d.processes = qs at processes ⊢
  induction processes with
  | nil => exact .nil
  | @cons p q _ _ alike _ ih =>
    rw [List.flatMap_cons, List.flatMap_cons, alike.name]
    exact (alike.perm_requests.map _).append ih

theorem coordinate (same : c.EqUpToOrder d) (distinct : (c.requests.map (·.2.entity)).Nodup) :
    TallyUpToOrder c.coordinate.value d.coordinate.value := by
  have applied := same.decided.applyRequests same.perm_requests distinct
  have value (cluster : Cluster) : cluster.coordinate.value =
      let tally := (cluster.decided.applyRequests cluster.requests).value
      (tally.1, { tally.2 with handovers := tally.2.handovers + tally.1.handovers }) := by
    simp only [Cluster.coordinate, Cluster.decided, Logged.value_bind]
    split <;> rfl
  rw [value, value]
  have handovers := congrArg₂ (· + ·) applied.cluster.handovers
    (congrArg TickSummary.handovers applied.summary)
  exact ⟨applied.summary, { applied.cluster with handovers }⟩

variable {scenario : Scenario}

theorem tickIn (same : c.EqUpToOrder d) (consistent : c.Consistent scenario)
    (distinct : scenario.workers.Nodup) (order order' : VisitOrder) :
    TallyUpToOrder (c.tickIn order) (d.tickIn order') := by
  have prepared := same.prepared order order'
  cases balanced : c.loadBalancing with
  | false =>
    rw [tickIn_of_off balanced, tickIn_of_off (same.loadBalancing ▸ balanced)]
    exact ⟨rfl, prepared⟩
  | true =>
    rw [tickIn_of_on balanced, tickIn_of_on (same.loadBalancing ▸ balanced)]
    -- the requests are for different entities, as each comes from the one owner of its entity
    have ready := consistent.prepared order
    refine prepared.coordinate (nodup_requests (ready.names ▸ distinct) fun p member => ?_)
    exact ready.view_mirrors member (inbox_of_mem_prepared member)

theorem evolve (same : c.EqUpToOrder d) (consistent : c.Consistent scenario)
    (distinct : scenario.workers.Nodup) (orders orders' : Nat → VisitOrder) (n : Nat) :
    (c.evolve orders n).EqUpToOrder (d.evolve orders' n) := by
  induction n with
  | zero => exact same
  | succ n ih =>
    exact (ih.tickIn (consistent.evolve orders n) distinct (orders n) (orders' n)).cluster

/-! ## What shows -/

theorem report_eq (same : c.EqUpToOrder d) : c.report = d.report := by
  have intended : c.intendedOwner? = d.intendedOwner? := by
    funext state
    rw [intendedOwner?, intendedOwner?, same.mapping]
  rw [report, report, misplaced, misplaced, same.tick, same.handovers, same.entities, intended]

theorem counts_eq (same : c.EqUpToOrder d) :
    c.processes.map (fun p => (p.name, p.virtualWorker, p.enforcer.counts)) =
      d.processes.map fun p => (p.name, p.virtualWorker, p.enforcer.counts) := by
  rw [← List.forall₂_eq_eq_eq, List.forall₂_map_left_iff, List.forall₂_map_right_iff]
  refine same.processes.imp fun p q alike => ?_
  rw [alike.name, Process.virtualWorker, alike.translator, alike.enforcer.counts]
  rfl

end EqUpToOrder

end Cluster

def VisitOrder.descending : VisitOrder where
  arrange _ entities := entities.reverse
  perm _ entities := entities.reverse_perm

/-- The settings differ at most in the order of entities, of restarts, and of changes of intent of
different entities. -/
structure Settings.Reordered (settings settings' : Settings) : Prop where
  loadBalancing : settings.loadBalancing = settings'.loadBalancing
  coordination : settings.coordination = settings'.coordination
  workers : settings.scenario.workers = settings'.scenario.workers
  entities : settings.scenario.entities.Perm settings'.scenario.entities
  intentChanges : Rearranged IntentChange.entity settings.scenario.intentChanges
    settings'.scenario.intentChanges
  restarts : settings.scenario.restarts.Perm settings'.scenario.restarts

namespace Cluster

variable {settings settings' : Settings}

theorem entities_initial_of_reordered (reordered : settings.Reordered settings')
    (sound : settings.scenario.Sound) (sound' : settings'.scenario.Sound) :
    (initial settings).entities = (initial settings').entities := by
  have listed : Rearranged EntitySeed.id settings.scenario.entities settings'.scenario.entities :=
    .of_perm reordered.entities sound.entities_nodup
  refine Std.ExtTreeMap.ext_getElem? fun entity => ?_
  rw [getElem?_initial sound, getElem?_initial sound', reordered.workers, ← List.head?_filter,
    ← List.head?_filter, listed entity]

theorem eqUpToOrder_initial (reordered : settings.Reordered settings')
    (sound : settings.scenario.Sound) (sound' : settings'.scenario.Sound) :
    (initial settings).EqUpToOrder (initial settings') := by
  have entities := entities_initial_of_reordered reordered sound sound'
  have started (settings : Settings) : (initial settings).processes =
      settings.scenario.workers.map fun worker =>
        .boot worker [mappingOf settings.scenario.workers]
          (snapshot (initial settings).entities worker) := rfl
  have processes : (initial settings).processes = (initial settings').processes := by
    rw [started, started, entities, reordered.workers]
  exact {
    processes := by
      rw [processes]
      exact (forall₂_equivalence Process.EqUpToOrder.equivalence).refl _
    entities
    mapping := congrArg mappingOf reordered.workers
    loadBalancing := congrArg LoadBalancing.enabled reordered.loadBalancing
    rescanInterval := congrArg (·.rescanInterval.toNat) reordered.coordination
    intentChanges := reordered.intentChanges
    restarts := reordered.restarts
    tick := rfl
    handovers := rfl }

/-- Two runs whose settings differ at most in the order of entities, restarts, and changes of intent of
different entities, and in which the processes rescan in any orders, cannot be told apart: after every
number of ticks they agree in all entities with their owners and access lists, in the report, in the
virtual worker and the counters of every process, and in what the next tick does. -/
theorem reordering_unobservable {cluster cluster' : Cluster} (accepted : new settings = .ok cluster)
    (accepted' : new settings' = .ok cluster') (reordered : settings.Reordered settings')
    (orders orders' : Nat → VisitOrder) (n : Nat) :
    let now := cluster.evolve orders n
    let now' := cluster'.evolve orders' n
    (now.tickIn (orders n)).1 = (now'.tickIn (orders' n)).1 ∧
      now.entities = now'.entities ∧ now.owners = now'.owners ∧ now.report = now'.report ∧
      now.processes.map (fun p => (p.name, p.virtualWorker, p.enforcer.counts)) =
        now'.processes.map fun p => (p.name, p.virtualWorker, p.enforcer.counts) := by
  obtain ⟨sound, rfl⟩ := (new_eq_ok_iff settings cluster).mp accepted
  obtain ⟨sound', rfl⟩ := (new_eq_ok_iff settings' cluster').mp accepted'
  intro now now'
  have distinct := sound.workers_nodup
  have consistent := (consistent_initial sound).evolve orders n
  -- the settings set the two runs apart by orders only, and no tick makes more of that
  have same : now.EqUpToOrder now' :=
    (eqUpToOrder_initial reordered sound sound').evolve (consistent_initial sound) distinct orders
      orders' n
  refine ⟨(same.tickIn consistent distinct _ _).summary, same.entities, ?_, same.report_eq,
    same.counts_eq⟩
  rw [owners, owners, same.entities]

/-- The standard scenario, and the same with every list reversed and every rescan running downwards.
After tick 60, in which its owner restarted, entity 5 is misplaced in both. -/
theorem reordering_unobservable_standard :
    let reversed : Settings := { Settings.standard with
      scenario := { Scenario.standard with
        entities := Scenario.standard.entities.reverse
        intentChanges := Scenario.standard.intentChanges.reverse
        restarts := Scenario.standard.restarts.reverse } }
    new .standard = .ok (initial .standard) ∧ new reversed = .ok (initial reversed) ∧
      Settings.standard.Reordered reversed ∧
        ((initial .standard).evolve (fun _ => .ascending) 60).report = ⟨60, 6, [⟨5⟩]⟩ ∧
        ((initial reversed).evolve (fun _ => .descending) 60).report = ⟨60, 6, [⟨5⟩]⟩ := by
  intro reversed
  have accepted : new reversed = .ok (initial reversed) := rfl
  have reordered : Settings.standard.Reordered reversed := {
    loadBalancing := rfl
    coordination := rfl
    workers := rfl
    entities := (List.reverse_perm _).symm
    intentChanges := .of_perm (List.reverse_perm _).symm (by decide)
    restarts := (List.reverse_perm _).symm }
  have report : ((initial .standard).evolve (fun _ => .ascending) 60).report = ⟨60, 6, [⟨5⟩]⟩ := by
    decide +kernel
  obtain ⟨_, _, _, same, _⟩ := reordering_unobservable new_standard accepted reordered
    (fun _ => .ascending) (fun _ => .descending) 60
  exact ⟨new_standard, accepted, reordered, report, same.symm.trans report⟩

end Cluster

end Handover
