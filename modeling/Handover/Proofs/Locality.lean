import Handover.Proofs.Agenda
import Handover.Proofs.Rearrangement

/-! # Messages about different entities do not meet

A message changes what a view shows of one entity and whether that entity is queued, and it adds to
counters.  So messages about different entities may be swapped: views come out the same
(`View.replay_rearranged`) and enforcers the same up to the order of their queues
(`Enforcer.EqUpToOrder.handleAll`).  The order of a queue in turn affects nothing but the order of the
requests (`Enforcer.EqUpToOrder.perm_requests`).
-/

namespace Handover

/-! ## Views -/

/-- What a message makes of what is shown of its entity. -/
def WorkerOp.rowAfter (op : WorkerOp) (row : Option (Std.ExtTreeMap ComponentId Cell)) :
    Option (Std.ExtTreeMap ComponentId Cell) :=
  match op with
  | .addComponent _ data =>
    some ((row.getD ∅).alter data.component fun cell =>
      some ⟨data, (cell.map (·.authority)).getD .notAuthoritative⟩)
  | .updateComponent _ data => row.map (·.modify data.component ({ · with data := data }))
  | .removeComponent _ component => row.map (·.erase component)
  | .changeAuthority _ component authority =>
    row.map (·.modify component ({ · with authority := authority }))
  | .removeEntity _ => none

namespace View

theorem eq_of_rows {view view' : View}
    (same : ∀ entity : EntityId, view.entities[entity]? = view'.entities[entity]?) : view = view' :=
  congrArg mk (Std.ExtTreeMap.ext_getElem? same)

theorem getElem?_apply (view : View) (op : WorkerOp) (entity : EntityId) :
    (view.apply op).entities[entity]? =
      if op.entity = entity then op.rowAfter view.entities[op.entity]?
      else view.entities[entity]? := by
  cases op with
  | addComponent e data =>
    simp only [apply, alterCell, Std.ExtTreeMap.getElem?_insert,
      Std.LawfulEqCmp.compare_eq_iff_eq]
    rfl
  | updateComponent e data =>
    simp only [apply, modifyCell, Std.ExtTreeMap.getElem?_modify,
      Std.LawfulEqCmp.compare_eq_iff_eq]
    rfl
  | removeComponent e component =>
    simp only [apply, removeComponent, Std.ExtTreeMap.getElem?_modify,
      Std.LawfulEqCmp.compare_eq_iff_eq]
    rfl
  | changeAuthority e component authority =>
    simp only [apply, setAuthority, modifyCell, Std.ExtTreeMap.getElem?_modify,
      Std.LawfulEqCmp.compare_eq_iff_eq]
    rfl
  | removeEntity e =>
    simp only [apply, removeEntity, Std.ExtTreeMap.getElem?_erase,
      Std.LawfulEqCmp.compare_eq_iff_eq]
    rfl

theorem apply_comm (view : View) {op op' : WorkerOp} (apart : op.entity ≠ op'.entity) :
    (view.apply op).apply op' = (view.apply op').apply op := by
  refine eq_of_rows fun entity => ?_
  simp only [getElem?_apply, if_neg apart, if_neg apart.symm]
  by_cases here : op.entity = entity
  · have there : op'.entity ≠ entity := fun same => apart (here.trans same.symm)
    rw [if_neg there, if_pos here, if_pos here]
  · rw [if_neg here, if_neg here]

theorem replay_rearranged (view : View) {ops ops' : List WorkerOp}
    (same : Rearranged WorkerOp.entity ops ops') : view.replay ops = view.replay ops' :=
  same.foldl ⟨Eq.refl, Eq.symm, Eq.trans⟩ (fun op same => congrArg (View.apply · op) same)
    (fun view _ _ apart => view.apply_comm apart) rfl

end View

/-! ## Enforcers -/

theorem SkipCounts.record_comm (counts : SkipCounts) (reason reason' : SkipReason) :
    (counts.record reason).record reason' = (counts.record reason').record reason := by
  cases reason <;> cases reason' <;> rfl

namespace Enforcer

/-- The enforcers have done the same so far, and the same entities are queued, in whatever order. -/
structure EqUpToOrder (p q : Enforcer) : Prop where
  worker : p.worker = q.worker
  counts : p.counts = q.counts
  queued : ∀ entity, p.pending.contains entity = q.pending.contains entity

theorem EqUpToOrder.equivalence : Equivalence EqUpToOrder where
  refl _ := ⟨rfl, rfl, fun _ => rfl⟩
  symm same := ⟨same.worker.symm, same.counts.symm, fun entity => (same.queued entity).symm⟩
  trans left right := ⟨left.worker.trans right.worker, left.counts.trans right.counts,
    fun entity => (left.queued entity).trans (right.queued entity)⟩

/-- What acting on a trigger adds to the counters, if the entity is queued or not. -/
def countsAfter (counts : EnforcerCounts) (trigger : Trigger) (queued : Bool) : EnforcerCounts :=
  match trigger with
  | .queue _ => { counts with queued := counts.queued + (!queued).toNat }
  | .drop _ => { counts with dropped := counts.dropped + queued.toNat }

theorem counts_act (enforcer : Enforcer) (trigger : Trigger) :
    (enforcer.act trigger).counts =
      countsAfter enforcer.counts trigger (enforcer.pending.contains trigger.entity) := by
  cases trigger with
  | queue e =>
    rw [countsAfter, Trigger.entity, ← enforcer.pending.push_new]
    rfl
  | drop e =>
    rw [countsAfter, Trigger.entity, ← enforcer.pending.remove_found]
    rfl

theorem worker_act (enforcer : Enforcer) (trigger : Trigger) :
    (enforcer.act trigger).worker = enforcer.worker := by
  cases trigger <;> rfl

variable {p q : Enforcer}

theorem EqUpToOrder.act (same : p.EqUpToOrder q) (trigger : Trigger) :
    (p.act trigger).EqUpToOrder (q.act trigger) where
  worker := by rw [worker_act, worker_act, same.worker]
  counts := by rw [counts_act, counts_act, same.counts, same.queued]
  queued entity := by rw [contains_act, contains_act, same.queued]

theorem act_comm (enforcer : Enforcer) {t t' : Trigger} (apart : t.entity ≠ t'.entity) :
    ((enforcer.act t).act t').EqUpToOrder ((enforcer.act t').act t) where
  worker := by simp only [worker_act]
  counts := by
    rw [counts_act, counts_act, counts_act, counts_act, contains_act, contains_act,
      Trigger.queuedAfter_of_ne apart, Trigger.queuedAfter_of_ne apart.symm]
    cases t <;> cases t' <;> simp [countsAfter, Nat.add_right_comm]
  queued entity := by
    rw [contains_act, contains_act, contains_act, contains_act]
    by_cases here : t.entity = entity
    · have there : t'.entity ≠ entity := fun same => apart (here.trans same.symm)
      rw [Trigger.queuedAfter_of_ne there, Trigger.queuedAfter_of_ne there]
    · rw [Trigger.queuedAfter_of_ne here, Trigger.queuedAfter_of_ne here]

theorem EqUpToOrder.handle (same : p.EqUpToOrder q) (op : WorkerOp) :
    (p.handle op).EqUpToOrder (q.handle op) := by
  rw [Enforcer.handle, Enforcer.handle]
  cases Trigger.ofOp op with
  | none => exact same
  | some trigger => exact same.act trigger

theorem handle_comm (enforcer : Enforcer) {op op' : WorkerOp} (apart : op.entity ≠ op'.entity) :
    ((enforcer.handle op).handle op').EqUpToOrder ((enforcer.handle op').handle op) := by
  simp only [handle]
  cases triggers : Trigger.ofOp op with
  | none => exact EqUpToOrder.equivalence.refl _
  | some trigger =>
    cases triggers' : Trigger.ofOp op' with
    | none => exact EqUpToOrder.equivalence.refl _
    | some trigger' =>
      refine enforcer.act_comm ?_
      rw [Trigger.entity_of_ofOp triggers, Trigger.entity_of_ofOp triggers']
      exact apart

theorem EqUpToOrder.handleAll (same : p.EqUpToOrder q) {ops ops' : List WorkerOp}
    (rearranged : Rearranged WorkerOp.entity ops ops') :
    (p.handleAll ops).EqUpToOrder (q.handleAll ops') :=
  rearranged.foldl equivalence (fun op same => same.handle op)
    (fun enforcer _ _ apart => enforcer.handle_comm apart) same

/-- It does not matter in which order entities are queued. -/
theorem EqUpToOrder.queueAll (same : p.EqUpToOrder q) {entities entities' : List EntityId}
    (perm : entities.Perm entities') (distinct : entities.Nodup) :
    (entities.foldl (fun enforcer entity => enforcer.act (.queue entity)) p).EqUpToOrder
      (entities'.foldl (fun enforcer entity => enforcer.act (.queue entity)) q) := by
  have rearranged : Rearranged id entities entities' :=
    .of_perm perm (by rwa [List.map_id])
  exact rearranged.foldl equivalence (fun entity same => same.act (.queue entity))
    (fun enforcer _ _ apart => enforcer.act_comm apart) same

/-! ## Passes -/

theorem EqUpToOrder.perm_toList (same : p.EqUpToOrder q) :
    p.pending.toList.Perm q.pending.toList := by
  refine (List.perm_ext_iff_of_nodup p.pending.nodup_toList q.pending.nodup_toList).mpr ?_
  intro entity
  rw [PendingQueue.mem_toList, PendingQueue.mem_toList, same.queued]

theorem EqUpToOrder.perm_decisions (same : p.EqUpToOrder q) (view : View)
    (translator : Translator) :
    (p.decisions view translator).Perm (q.decisions view translator) :=
  same.perm_toList.map _

theorem EqUpToOrder.perm_requests (same : p.EqUpToOrder q) (view : View)
    (translator : Translator) :
    (p.requests view translator).Perm (q.requests view translator) :=
  (same.perm_decisions view translator).filterMap _

theorem EqUpToOrder.process (same : p.EqUpToOrder q) (view : View) (translator : Translator) :
    (p.process view translator).EqUpToOrder (q.process view translator) where
  worker := same.worker
  counts := by
    have decisions := same.perm_decisions view translator
    have requested := (decisions.filterMap Decision.request?).length_eq
    have skipped := (decisions.filterMap Decision.skipped?).foldl_eq'
      (fun reason _ reason' _ counts => SkipCounts.record_comm counts reason reason')
      q.counts.skipped
    simp only [Enforcer.process, requested, skipped, same.counts]
  queued entity := by
    show p.pending.drain.2.contains entity = q.pending.drain.2.contains entity
    rw [PendingQueue.contains_drain, PendingQueue.contains_drain]

theorem toList_pending_process (enforcer : Enforcer) (view : View) (translator : Translator) :
    (enforcer.process view translator).pending.toList = [] :=
  enforcer.pending.toList_drain

/-! ## Two deliveries -/

/-- If two streams of messages tell the same about every entity in the same order, it does not matter
which of them is delivered: what is seen afterwards is the same, the same entities are queued and the
counters agree.  A pass then makes the same requests, though maybe in another order, and leaves the
counters in agreement and both queues empty. -/
theorem delivery_up_to_order (view : View) (enforcer : Enforcer) {ops ops' : List WorkerOp}
    (same : ∀ entity, ops.filter (·.entity = entity) = ops'.filter (·.entity = entity)) :
    let seen := view.replay ops
    let seen' := view.replay ops'
    let now := enforcer.handleAll ops
    let now' := enforcer.handleAll ops'
    seen = seen' ∧
      (∀ entity, now.pending.contains entity = now'.pending.contains entity) ∧
      now.counts = now'.counts ∧
      ∀ translator,
        (now.requests seen translator).Perm (now'.requests seen' translator) ∧
        (now.process seen translator).counts = (now'.process seen' translator).counts ∧
        (now.process seen translator).pending.toList = [] ∧
        (now'.process seen' translator).pending.toList = [] := by
  intro seen seen' now now'
  have rearranged : Rearranged WorkerOp.entity ops ops' := same
  have sight : seen = seen' := view.replay_rearranged rearranged
  have alike : now.EqUpToOrder now' := (EqUpToOrder.equivalence.refl enforcer).handleAll rearranged
  refine ⟨sight, alike.queued, alike.counts, fun translator => ?_⟩
  rw [← sight]
  exact ⟨alike.perm_requests seen translator, (alike.process seen translator).counts,
    toList_pending_process .., toList_pending_process ..⟩

/-- Two entities become visible, one message about each in turn or one entity after the other; a third
is queued and removed again.  The queues differ in their order, and so do the requests of the pass. -/
theorem delivery_up_to_order_interleaved :
    let told (entity : EntityId) : List WorkerOp :=
      [.addComponent entity (.intent ⟨2⟩), .addComponent entity (.presence [100]),
        .addComponent entity (.accessList .empty), .changeAuthority entity .accessList .authoritative]
    let gone : List WorkerOp := [.addComponent ⟨9⟩ (.intent ⟨2⟩), .removeEntity ⟨9⟩]
    let inTurn := ((told ⟨7⟩).zip (told ⟨8⟩)).flatMap (fun (op, op') => [op, op']) ++ gone
    let entityWise := told ⟨8⟩ ++ gone ++ told ⟨7⟩
    let seen := View.empty.replay inTurn
    let seen' := View.empty.replay entityWise
    let now := (start ⟨"WorkerA"⟩).handleAll inTurn
    let now' := (start ⟨"WorkerA"⟩).handleAll entityWise
    let translator := (Translator.start ⟨"WorkerA"⟩ none).apply
      (.ofWorkers [(⟨"WorkerA"⟩, ⟨10⟩), (⟨"WorkerB"⟩, ⟨20⟩)])
    let request (entity : EntityId) : AclRequest := ⟨entity, ⟨"WorkerB"⟩, .ofList [(100 : ComponentId)]⟩
    (∀ entity, inTurn.filter (·.entity = entity) = entityWise.filter (·.entity = entity)) ∧
      seen = seen' ∧
      now.pending.toList = [⟨7⟩, ⟨8⟩] ∧ now'.pending.toList = [⟨8⟩, ⟨7⟩] ∧
      now.counts = now'.counts ∧ now'.counts.queued = 3 ∧ now'.counts.dropped = 1 ∧
      (now.requests seen translator).Perm (now'.requests seen' translator) ∧
      now.requests seen translator = [request ⟨7⟩, request ⟨8⟩] ∧
      now'.requests seen' translator = [request ⟨8⟩, request ⟨7⟩] ∧
      (now.process seen translator).counts = (now'.process seen' translator).counts ∧
      (now'.process seen' translator).counts.requested = 2 := by
  intro told gone inTurn entityWise seen seen' now now' translator request
  have same (entity : EntityId) :
      inTurn.filter (·.entity = entity) = entityWise.filter (·.entity = entity) := by
    have about : ∀ op ∈ inTurn ++ entityWise, op.entity ∈ [(⟨7⟩ : EntityId), ⟨8⟩, ⟨9⟩] := by decide
    by_cases listed : entity ∈ [(⟨7⟩ : EntityId), ⟨8⟩, ⟨9⟩]
    · simp only [List.mem_cons, List.not_mem_nil, or_false] at listed
      obtain rfl | rfl | rfl := listed <;> decide
    · -- no message is about any other entity
      have none (op : WorkerOp) (told : op ∈ inTurn ++ entityWise) : op.entity ≠ entity :=
        fun same => listed (same ▸ about op told)
      rw [List.filter_eq_nil_iff.mpr, List.filter_eq_nil_iff.mpr]
      · exact fun op told => by simpa using none op (List.mem_append_right _ told)
      · exact fun op told => by simpa using none op (List.mem_append_left _ told)
  obtain ⟨sight, _, counts, passes⟩ := delivery_up_to_order View.empty (start ⟨"WorkerA"⟩) same
  obtain ⟨requests, after, _⟩ := passes translator
  exact ⟨same, sight, by decide +kernel, by decide +kernel, counts, by decide +kernel,
    by decide +kernel, requests, by decide +kernel, by decide +kernel, after, by decide +kernel⟩

end Enforcer

end Handover
