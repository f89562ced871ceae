import Handover.Proofs.Agenda
import Handover.Proofs.Translation

/-! # A process between its messages and its requests

What a process was sent but has not taken yet is part of what it will see and queue.  So a process is
described by its *outlook*, the view it will have, and its *agenda*, the enforcer it will have, once it
has taken its messages; delivery changes neither.

Its translator is in one of three stages, `Restarted`, `Waiting` or `Settled`, and each delivery takes
it to the next.
-/

namespace Handover

namespace Process

/-- What the process will see once it has taken its messages. -/
def outlook (process : Process) : View := process.view.replay process.inbox

/-- The enforcer of the process once it has taken its messages. -/
def agenda (process : Process) : Enforcer := process.enforcer.handleAll process.inbox

def sendAll (process : Process) (ops : List WorkerOp) : Process :=
  { process with inbox := process.inbox ++ ops }

theorem send_eq_sendAll (process : Process) (op : WorkerOp) :
    process.send op = process.sendAll [op] := rfl

@[simp] theorem name_sendAll (process : Process) (ops : List WorkerOp) :
    (process.sendAll ops).name = process.name := rfl

theorem sendAll_sendAll (process : Process) (ops ops' : List WorkerOp) :
    (process.sendAll ops).sendAll ops' = process.sendAll (ops ++ ops') := by
  simp [sendAll, List.append_assoc]

@[simp] theorem outlook_sendAll (process : Process) (ops : List WorkerOp) :
    (process.sendAll ops).outlook = process.outlook.replay ops :=
  process.view.replay_append process.inbox ops

theorem contains_agenda (process : Process) (entity : EntityId) :
    process.agenda.pending.contains entity =
      WorkerOp.queuedAfterAll process.inbox entity (process.enforcer.pending.contains entity) :=
  process.enforcer.contains_handleAll process.inbox entity

theorem contains_agenda_sendAll (process : Process) (ops : List WorkerOp) (entity : EntityId) :
    (process.sendAll ops).agenda.pending.contains entity =
      WorkerOp.queuedAfterAll ops entity (process.agenda.pending.contains entity) := by
  rw [contains_agenda, contains_agenda, sendAll, WorkerOp.queuedAfterAll_append]

/-! ## The outcome of each operation -/

theorem value_receiveAll (ops : List WorkerOp) (process : Process) :
    (ops.foldlM receive process).value =
      { process with
        view := process.view.replay ops, enforcer := process.enforcer.handleAll ops } := by
  rw [Logged.value_foldlM]
  induction ops generalizing process with
  | nil => rfl
  | cons op ops ih => exact ih _

theorem value_deliver (process : Process) :
    process.deliver.value =
      { process with
        translator := process.mappings.head?.elim process.translator process.translator.apply
        mappings := process.mappings.tail
        view := process.outlook
        enforcer := process.agenda
        inbox := [] } := by
  cases process with
  | mk name translator view enforcer mappings inbox =>
    cases mappings with
    | nil => exact value_receiveAll inbox ⟨name, translator, view, enforcer, [], []⟩
    | cons update mappings =>
      exact value_receiveAll inbox ⟨name, translator.apply update, view, enforcer, mappings, []⟩

theorem name_deliver (process : Process) : process.deliver.value.name = process.name := by
  rw [value_deliver]

theorem value_rescan (visit : List EntityId → List EntityId) (process : Process) :
    (process.rescan visit).value =
      { process with
        enforcer := (visit process.held).foldl (fun enforcer entity => enforcer.act (.queue entity))
          process.enforcer } := by
  rw [rescan, Logged.value_foldlM]
  generalize visit process.held = entities
  induction entities generalizing process with
  | nil => rfl
  | cons entity entities ih => exact ih _

theorem value_coordinate (process : Process) :
    process.coordinate.value =
      { process with
        enforcer := process.enforcer.process process.view process.translator } := rfl

theorem contains_rescan (visit : List EntityId → List EntityId) (process : Process)
    (entity : EntityId) :
    (process.rescan visit).value.enforcer.pending.contains entity =
      (decide (entity ∈ visit process.held) || process.enforcer.pending.contains entity) := by
  rw [value_rescan]
  generalize visit process.held = entities
  generalize process.enforcer = enforcer
  induction entities generalizing enforcer with
  | nil => simp
  | cons e entities ih =>
    rw [List.foldl_cons, ih, Enforcer.contains_act, Trigger.queuedAfter, Bool.eq_iff_iff]
    simp only [Bool.or_eq_true, decide_eq_true_eq, List.mem_cons]
    grind

/-! ## Stages of the translator -/

variable {scenario : Scenario} {process : Process}

/-- The process is of the scenario, and its translator is its own. -/
structure Listed (scenario : Scenario) (process : Process) : Prop where
  name : process.name ∈ scenario.workers
  translator : process.translator.worker = process.name

/-- The translator is ready and no mapping is on its way. -/
structure Settled (scenario : Scenario) (process : Process) : Prop extends
    Listed scenario process where
  mappings : process.mappings = []
  ready : process.translator.Ready scenario

/-- The translator knows nothing yet, and the mapping in force comes next. -/
structure Waiting (scenario : Scenario) (process : Process) : Prop extends
    Listed scenario process where
  mappings : process.mappings = [Cluster.mappingOf scenario.workers]
  unknown : process.translator.known = .unassigned

/-- The translator knows nothing yet, and a mapping from before its process comes next. -/
structure Restarted (scenario : Scenario) (process : Process) : Prop extends
    Listed scenario process where
  mappings : process.mappings =
    [(Cluster.mappingOf scenario.workers).without process.name, Cluster.mappingOf scenario.workers]
  unknown : process.translator.known = .unassigned

/-- The processes differ in nothing that a stage depends on. -/
structure Alike (p q : Process) : Prop where
  name : q.name = p.name
  translator : q.translator = p.translator
  mappings : q.mappings = p.mappings

theorem Alike.refl (p : Process) : p.Alike p := ⟨rfl, rfl, rfl⟩

theorem Alike.trans {p q r : Process} (left : p.Alike q) (right : q.Alike r) : p.Alike r :=
  ⟨right.name.trans left.name, right.translator.trans left.translator,
    right.mappings.trans left.mappings⟩

theorem alike_sendAll (p : Process) (ops : List WorkerOp) : p.Alike (p.sendAll ops) :=
  ⟨rfl, rfl, rfl⟩

theorem alike_rescan (p : Process) (visit : List EntityId → List EntityId) :
    p.Alike (p.rescan visit).value := by
  rw [value_rescan]
  exact ⟨rfl, rfl, rfl⟩

theorem alike_coordinate (p : Process) : p.Alike p.coordinate.value := ⟨rfl, rfl, rfl⟩

theorem Listed.of_alike {p q : Process} (listed : p.Listed scenario) (alike : p.Alike q) :
    q.Listed scenario where
  name := by rw [alike.name]; exact listed.name
  translator := by rw [alike.translator, alike.name]; exact listed.translator

theorem Settled.of_alike {p q : Process} (settled : p.Settled scenario) (alike : p.Alike q) :
    q.Settled scenario where
  toListed := settled.toListed.of_alike alike
  mappings := alike.mappings.trans settled.mappings
  ready := by rw [alike.translator]; exact settled.ready

theorem Waiting.of_alike {p q : Process} (waiting : p.Waiting scenario) (alike : p.Alike q) :
    q.Waiting scenario where
  toListed := waiting.toListed.of_alike alike
  mappings := alike.mappings.trans waiting.mappings
  unknown := by rw [alike.translator]; exact waiting.unknown

theorem Settled.deliver (settled : process.Settled scenario) :
    process.deliver.value.Settled scenario := by
  rw [value_deliver, settled.mappings]
  exact ⟨⟨settled.name, settled.translator⟩, rfl, settled.ready⟩

theorem Waiting.deliver (waiting : process.Waiting scenario) (sound : scenario.Sound)
    (few : scenario.workers.length < UInt32.size) : process.deliver.value.Settled scenario := by
  rw [value_deliver, waiting.mappings]
  have listed : process.translator.worker ∈ scenario.workers :=
    waiting.translator.symm ▸ waiting.name
  exact ⟨⟨waiting.name, (Translator.worker_apply _ _).trans waiting.translator⟩, rfl,
    Translator.ready_apply sound few listed waiting.unknown⟩

theorem Restarted.deliver (restarted : process.Restarted scenario) (sound : scenario.Sound)
    (few : scenario.workers.length < UInt32.size) : process.deliver.value.Waiting scenario := by
  rw [value_deliver, restarted.mappings]
  refine ⟨⟨restarted.name, (Translator.worker_apply _ _).trans restarted.translator⟩, rfl, ?_⟩
  rw [← restarted.translator]
  exact Translator.unknown_apply_without sound few restarted.unknown

/-! ## Requests -/

/-- A request is made exactly if none of the four checks fails. -/
theorem evaluate_eq_ok {entity : EntityId} {view : View} {translator : Translator}
    {request : AclRequest} :
    evaluate entity view translator = .ok request ↔
      ∃ intent owner components, view.intent? entity = some intent ∧ intent.isValid ∧
        translator.resolveWorker? intent = some owner ∧ view.mayHandOver entity ∧
        view.presence? entity = some components ∧
        request = ⟨entity, owner, .ofList components⟩ := by
  rw [evaluate]
  constructor
  · intro asked
    split at asked
    case h_1 => cases asked
    case h_2 intent kept =>
      obtain ⟨intended, valid⟩ := Option.filter_eq_some_iff.mp kept
      split at asked
      case h_1 => cases asked
      case h_2 owner resolved =>
        split at asked
        case isFalse => cases asked
        case isTrue authoritative =>
          split at asked
          case h_1 => cases asked
          case h_2 components present =>
            exact ⟨intent, owner, components, intended, valid, resolved, authoritative, present,
              (Except.ok.inj asked).symm⟩
  · rintro ⟨intent, owner, components, intended, valid, resolved, authoritative, present, rfl⟩
    simp [intended, Option.filter, valid, resolved, authoritative, present]

theorem entity_of_evaluate {entity : EntityId} {view : View} {translator : Translator}
    {request : AclRequest} (asked : evaluate entity view translator = .ok request) :
    request.entity = entity := by
  obtain ⟨_, _, _, _, _, _, _, _, rfl⟩ := evaluate_eq_ok.mp asked
  rfl

/-- A process whose view mirrors the true state decides by it. -/
theorem evaluate_eq_ok_iff {view : View} {entities : Std.ExtTreeMap EntityId EntityState}
    {worker : WorkerName} (mirrors : view.Mirrors entities worker) (translator : Translator)
    (entity : EntityId) (request : AclRequest) :
    evaluate entity view translator = .ok request ↔
      ∃ (state : EntityState) (target : WorkerName), entities[entity]? = some state ∧
        state.owner = worker ∧ state.intent.isValid ∧
        translator.resolveWorker? state.intent = some target ∧
        request = ⟨entity, target, .ofList state.components⟩ := by
  rw [evaluate_eq_ok]
  cases present : entities[entity]? with
  | none =>
    -- an entity that is not there has no intent to be seen
    have unseen : view.intent? entity = none := by
      simp [View.intent?, View.component?, View.cell?_of_hidden (mirrors.hidden present)]
    simp [unseen]
  | some state =>
    have shown := mirrors.shown present
    rw [shown.intent?_eq, shown.presence?_eq, mirrors.mayHandOver_eq present, decide_eq_true_iff]
    constructor
    · rintro ⟨_, target, _, intended, valid, resolved, owned, listed, rfl⟩
      obtain rfl := Option.some.inj intended
      obtain rfl := Option.some.inj listed
      exact ⟨state, target, rfl, owned, valid, resolved, rfl⟩
    · rintro ⟨_, target, same, owned, valid, resolved, rfl⟩
      obtain rfl := Option.some.inj same
      exact ⟨_, target, _, rfl, valid, resolved, owned, rfl, rfl⟩

theorem mem_requests {request : AclRequest} :
    request ∈ process.requests ↔ process.enforcer.pending.contains request.entity ∧
      evaluate request.entity process.view process.translator = .ok request := by
  simp only [requests, Enforcer.requests, Enforcer.decisions, List.filterMap_map,
    List.mem_filterMap, PendingQueue.mem_toList, Function.comp_apply, Decision.request?]
  constructor
  · rintro ⟨entity, queued, asked⟩
    cases decided : evaluate entity process.view process.translator with
    | error reason => rw [decided] at asked; cases asked
    | ok r =>
      rw [decided] at asked
      obtain rfl : r = request := Option.some.inj asked
      obtain rfl := entity_of_evaluate decided
      exact ⟨queued, decided⟩
  · rintro ⟨queued, decided⟩
    exact ⟨request.entity, queued, by rw [decided]; rfl⟩

/-- The entities asked for are those queued, less the ones that are skipped. -/
theorem map_entity_requests (process : Process) :
    process.requests.map (·.entity) = process.enforcer.pending.toList.filter fun entity =>
      (evaluate entity process.view process.translator).isOk := by
  simp only [requests, Enforcer.requests, Enforcer.decisions, List.filterMap_map]
  induction process.enforcer.pending.toList with
  | nil => rfl
  | cons entity entities ih =>
    cases decided : evaluate entity process.view process.translator with
    | error reason =>
      rw [List.filterMap_cons_none (by rw [Function.comp_apply, Decision.request?, decided]; rfl), ih,
        List.filter_cons_of_neg (by rw [decided]; exact Bool.false_ne_true)]
    | ok request =>
      rw [List.filterMap_cons_some (b := request)
        (by rw [Function.comp_apply, Decision.request?, decided]; rfl), List.map_cons, ih,
        entity_of_evaluate decided, List.filter_cons_of_pos (by rw [decided]; rfl)]

theorem nodup_requests (process : Process) : (process.requests.map (·.entity)).Nodup := by
  rw [map_entity_requests]
  exact process.enforcer.pending.nodup_toList.filter _

end Process

end Handover
