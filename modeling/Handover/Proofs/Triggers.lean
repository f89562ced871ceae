import Handover.Proofs.Agenda
import Handover.Proofs.Identity
import Handover.Proofs.Process
import Mathlib.Data.List.Nodup

/-! # No trigger is lost

A worker on its own takes any sequence of messages, requests to queue an entity, mappings and passes of
its enforcer.  If at some point it would hand an entity over and the entity is not queued, then a pass
has looked at the entity, and the last one that did asked for just that, unless a mapping was accepted
since.

View and enforcer read the same messages by different rules, and a message may well drop an entity from
the queue.  What carries the induction is the *bearing* of an entity, the three things in a view that a
decision depends on (`evaluate_congr`): a message that leaves an entity out of the queue with a complete
bearing has found it out of the queue with that same bearing (`idle_and_bearing_of_apply`).
-/

namespace Handover

/-! ## What a decision depends on -/

namespace View

/-- What a view tells a decision about an entity. -/
structure Bearing where
  intent? : Option VirtualWorkerId
  mayHandOver : Bool
  presence? : Option (List ComponentId)
deriving DecidableEq

def bearing (view : View) (entity : EntityId) : Bearing :=
  ⟨view.intent? entity, view.mayHandOver entity, view.presence? entity⟩

/-- Nothing in the view stands in the way of a request for the entity, except perhaps that the intent
is a reserved value. -/
structure Bearing.Complete (bearing : Bearing) : Prop where
  intent : bearing.intent?.isSome
  authority : bearing.mayHandOver
  presence : bearing.presence?.isSome

theorem bearing_empty (entity : EntityId) : empty.bearing entity = ⟨none, false, none⟩ := by
  simp [bearing, intent?, mayHandOver, mayWrite, presence?, component?, authority,
    Authority.permitsWrites]

end View

theorem evaluate_congr {view view' : View} {entity : EntityId}
    (same : view.bearing entity = view'.bearing entity) (translator : Translator) :
    evaluate entity view translator = evaluate entity view' translator := by
  obtain ⟨intent, authority, presence⟩ := View.Bearing.mk.inj same
  rw [evaluate, evaluate, intent, authority, presence]

theorem complete_of_evaluate {view : View} {entity : EntityId} {translator : Translator}
    {request : AclRequest} (asked : evaluate entity view translator = .ok request) :
    (view.bearing entity).Complete := by
  obtain ⟨_, _, _, intended, _, _, authoritative, present, _⟩ := Process.evaluate_eq_ok.mp asked
  exact ⟨Option.isSome_of_eq_some intended, authoritative, Option.isSome_of_eq_some present⟩

/-! ## One message -/

namespace View

theorem bearing_apply_of_ne (view : View) {op : WorkerOp} {entity : EntityId}
    (other : op.entity ≠ entity) : (view.apply op).bearing entity = view.bearing entity := by
  simp [bearing, intent?, presence?, mayHandOver, mayWrite, authority, component?,
    view.cell?_apply_of_ne other]

theorem cell?_apply_of_component_ne (view : View) {op : WorkerOp} {c component : ComponentId}
    (about : op.component? = some c) (other : c ≠ component) (entity : EntityId) :
    (view.apply op).cell? entity component = view.cell? entity component := by
  cases op with
  | addComponent e data =>
    obtain rfl := Option.some.inj about
    exact (view.cell?_alterCell e entity _ _ _).trans (if_neg fun h => other h.2)
  | updateComponent e data =>
    obtain rfl := Option.some.inj about
    exact (view.cell?_modifyCell e entity _ _ _).trans (if_neg fun h => other h.2)
  | removeComponent e c =>
    obtain rfl := Option.some.inj about
    exact (view.cell?_removeComponent e entity _ _).trans (if_neg fun h => other h.2)
  | changeAuthority e c authority =>
    obtain rfl := Option.some.inj about
    exact (view.cell?_modifyCell e entity _ _ _).trans (if_neg fun h => other h.2)
  | removeEntity e => cases about

/-- A component that is added keeps the authority over it, also one that was not visible. -/
theorem authority_addComponent (view : View) (e entity : EntityId) (data : ComponentData)
    (component : ComponentId) :
    (view.apply (.addComponent e data)).authority entity component =
      view.authority entity component := by
  rw [authority, authority, apply, cell?_alterCell]
  split
  · cases view.cell? entity component <;> rfl
  · rfl

theorem authority_updateComponent (view : View) (e entity : EntityId) (data : ComponentData)
    (component : ComponentId) :
    (view.apply (.updateComponent e data)).authority entity component =
      view.authority entity component := by
  rw [authority, authority, apply, cell?_modifyCell]
  split
  · cases view.cell? entity component <;> rfl
  · rfl

theorem component?_changeAuthority (view : View) (e entity : EntityId) (c component : ComponentId)
    (authority : Authority) :
    (view.apply (.changeAuthority e c authority)).component? entity component =
      view.component? entity component := by
  rw [component?, component?, apply, setAuthority, cell?_modifyCell]
  split
  · cases view.cell? entity component <;> rfl
  · rfl

/-- Messages about other components leave intent and presence alone, and with them the bearing if they
do not change who may hand the entity over. -/
theorem bearing_apply_of_component (view : View) {op : WorkerOp} {c : ComponentId}
    (about : op.component? = some c) (notIntent : c ≠ .intent) (notPresence : c ≠ .presence)
    {entity : EntityId}
    (authority : (view.apply op).authority entity .accessList = view.authority entity .accessList) :
    (view.apply op).bearing entity = view.bearing entity := by
  simp only [bearing, intent?, presence?, mayHandOver, mayWrite, component?, authority,
    view.cell?_apply_of_component_ne about notIntent,
    view.cell?_apply_of_component_ne about notPresence]

variable {view : View} {op : WorkerOp}

theorem authority_of_mayHandOver {entity : EntityId} {authority : Authority}
    (may : (view.apply (.changeAuthority entity .accessList authority)).mayHandOver entity) :
    authority = .authoritative := by
  rw [mayHandOver, mayWrite, View.authority, apply, setAuthority, cell?_modifyCell] at may
  cases shown : view.cell? entity .accessList with
  | none => simp [shown, Authority.permitsWrites] at may
  | some cell => simpa [shown, Authority.permitsWrites] using may

/-- What a message drops from the queue it also takes from the view: an entity that is dropped misses
its intent, its presence or the authority over its access list. -/
theorem not_complete_of_drop (drops : Trigger.ofOp op = some (.drop op.entity)) :
    ¬ ((view.apply op).bearing op.entity).Complete := by
  intro complete
  cases op with
  | addComponent e data => simp [Trigger.ofOp] at drops
  | updateComponent e data => simp [Trigger.ofOp] at drops
  | removeComponent e component =>
    have gone : (view.apply (.removeComponent e component)).cell? e component = none :=
      (view.cell?_removeComponent e e _ _).trans (if_pos ⟨rfl, rfl⟩)
    have steers : component.steersHandover := by
      rw [Trigger.ofOp, Option.ite_none_right_eq_some] at drops
      exact drops.1
    simp only [ComponentId.steersHandover, decide_eq_true_eq] at steers
    -- each of the three steering components takes a part of the bearing with it
    rcases steers with rfl | rfl | rfl
    · simpa [WorkerOp.entity, bearing, mayHandOver, mayWrite, authority, gone,
        Authority.permitsWrites] using complete.authority
    · simpa [WorkerOp.entity, bearing, intent?, component?, gone] using complete.intent
    · simpa [WorkerOp.entity, bearing, presence?, component?, gone] using complete.presence
  | changeAuthority e component authority =>
    rw [Trigger.ofOp, Option.ite_none_right_eq_some] at drops
    obtain ⟨rfl, drops⟩ := drops
    obtain rfl := authority_of_mayHandOver complete.authority
    cases drops
  | removeEntity e =>
    have gone : (view.apply (.removeEntity e)).cell? e .intent = none :=
      (view.cell?_removeEntity e e _).trans (if_pos rfl)
    simpa [WorkerOp.entity, bearing, intent?, component?, gone] using complete.intent

/-- A message that triggers nothing may announce the loss of authority; otherwise it leaves the bearing
of every entity as it was. -/
theorem bearing_of_no_trigger (nothing : Trigger.ofOp op = none)
    (complete : ((view.apply op).bearing op.entity).Complete) :
    (view.apply op).bearing op.entity = view.bearing op.entity := by
  cases op with
  | addComponent e data =>
    obtain ⟨notIntent, notPresence⟩ : data.component ≠ .intent ∧ data.component ≠ .presence := by
      simpa [Trigger.ofOp] using nothing
    exact view.bearing_apply_of_component rfl notIntent notPresence
      (view.authority_addComponent e e data _)
  | updateComponent e data =>
    obtain ⟨notIntent, notPresence⟩ : data.component ≠ .intent ∧ data.component ≠ .presence := by
      simpa [Trigger.ofOp] using nothing
    exact view.bearing_apply_of_component rfl notIntent notPresence
      (view.authority_updateComponent e e data _)
  | removeComponent e component =>
    obtain ⟨notAccessList, notIntent, notPresence⟩ :
        component ≠ .accessList ∧ component ≠ .intent ∧ component ≠ .presence := by
      simpa [Trigger.ofOp, ComponentId.steersHandover] using nothing
    refine view.bearing_apply_of_component rfl notIntent notPresence ?_
    rw [authority, authority, view.cell?_apply_of_component_ne rfl notAccessList]
  | changeAuthority e component authority =>
    by_cases access : component = .accessList
    · -- gained and lost authority both trigger, and an announced loss leaves no right to hand over
      subst access
      obtain rfl := authority_of_mayHandOver complete.authority
      simp [Trigger.ofOp, Trigger.ofAuthority] at nothing
    · -- the message may be about intent or presence, but then it leaves their values alone
      have kept : (view.apply (.changeAuthority e component authority)).cell? e .accessList =
          view.cell? e .accessList := view.cell?_apply_of_component_ne rfl access e
      simp only [WorkerOp.entity, bearing, intent?, presence?, mayHandOver, mayWrite,
        component?_changeAuthority, View.authority, kept]
  | removeEntity e => cases nothing

/-- A message that leaves an entity out of the queue but with a complete bearing has found it so, and
has not changed its bearing. -/
theorem idle_and_bearing_of_apply {entity : EntityId} {queued : Bool}
    (idle : op.queuedAfter entity queued = false)
    (complete : ((view.apply op).bearing entity).Complete) :
    queued = false ∧ (view.apply op).bearing entity = view.bearing entity := by
  by_cases other : op.entity ≠ entity
  · rw [WorkerOp.queuedAfter_of_ne other] at idle
    exact ⟨idle, view.bearing_apply_of_ne other⟩
  obtain rfl : op.entity = entity := not_not.mp other
  rw [WorkerOp.queuedAfter] at idle
  cases triggers : Trigger.ofOp op with
  | none =>
    rw [triggers] at idle
    exact ⟨idle, bearing_of_no_trigger triggers complete⟩
  | some trigger =>
    rcases Trigger.ofOp_eq_some triggers with rfl | rfl
    · simp [triggers, Trigger.queuedAfter] at idle
    · exact absurd complete (not_complete_of_drop triggers)

end View

namespace Process

/-! ## A worker on its own -/

inductive Step where
  | receive (op : WorkerOp)
  | queue (entity : EntityId)
  | map (update : MappingUpdate)
  | pass

def fresh (name translator : WorkerName) (strategy : Option Strategy) : Process where
  name
  translator := .start translator strategy
  view := .empty
  enforcer := .start name
  mappings := []
  inbox := []

def take (process : Process) : Step → Process
  | .receive op => (process.receive op).value
  | .queue entity => (process.act (.queue entity)).value
  | .map update => (process.takeMapping update).value
  | .pass => process.coordinate.value

def takeAll (process : Process) (steps : List Step) : Process := steps.foldl take process

/-- A pass of the enforcer would look at the entity. -/
def Examines (process : Process) (entity : EntityId) : Prop :=
  entity ∈ (process.enforcer.decisions process.view process.translator).map (·.entity)

theorem takeAll_append (process : Process) (steps steps' : List Step) :
    process.takeAll (steps ++ steps') = (process.takeAll steps).takeAll steps' :=
  List.foldl_append

theorem takeAll_concat (process : Process) (steps : List Step) (step : Step) :
    process.takeAll (steps ++ [step]) = (process.takeAll steps).take step :=
  process.takeAll_append steps [step]

theorem examines_iff {process : Process} {entity : EntityId} :
    process.Examines entity ↔ process.enforcer.pending.contains entity = true := by
  rw [Examines, Enforcer.decisions, List.map_map, ← PendingQueue.mem_toList]
  exact iff_of_eq (congrArg (entity ∈ ·) (List.map_id _))

/-- A pass that looks at an entity asks for just what it decides. -/
theorem filter_requests {process : Process} {entity : EntityId} {request : AclRequest}
    (examined : process.Examines entity)
    (asked : evaluate entity process.view process.translator = .ok request) :
    process.requests.filter (·.entity = entity) = [request] := by
  obtain rfl := entity_of_evaluate asked
  have queued := examines_iff.mp examined
  have distinct : process.requests.Nodup := List.Nodup.of_map _ process.nodup_requests
  refine List.perm_singleton.mp
    ((List.perm_ext_iff_of_nodup (distinct.filter _) (List.nodup_singleton _)).mpr fun other => ?_)
  rw [List.mem_filter, List.mem_singleton, mem_requests, decide_eq_true_iff]
  constructor
  · rintro ⟨⟨_, asked'⟩, same⟩
    rw [same, asked] at asked'
    exact (Except.ok.inj asked').symm
  · rintro rfl
    exact ⟨⟨queued, asked⟩, rfl⟩

/-! ## The last pass -/

/-- Of the steps of a worker, the pass between `before` and `after` is the last one that looks at the
entity. -/
structure LastPassOn (start : Process) (entity : EntityId) (steps before after : List Step) :
    Prop where
  cut : steps = before ++ .pass :: after
  examined : (start.takeAll before).Examines entity
  none_later : ∀ between later, after = between ++ .pass :: later →
    ¬ (start.takeAll (before ++ .pass :: between)).Examines entity

def Remaps (start : Process) (steps : List Step) : Prop :=
  ∃ between update later, steps = between ++ .map update :: later ∧
    (start.takeAll between).translator.accepts update

variable {start : Process} {entity : EntityId} {steps before after : List Step} {step : Step}

theorem LastPassOn.concat (last : start.LastPassOn entity steps before after)
    (blind : step = .pass → ¬ (start.takeAll steps).Examines entity) :
    start.LastPassOn entity (steps ++ [step]) before (after ++ [step]) where
  cut := by rw [last.cut, List.append_assoc, List.cons_append]
  examined := last.examined
  none_later := by
    intro between later cut
    cases later using List.reverseRecOn with
    | nil =>
      -- the new step is itself the pass
      obtain ⟨rfl, isPass⟩ := List.append_singleton_inj.mp cut
      rw [← last.cut]
      exact blind isPass
    | append_singleton later final =>
      rw [← List.cons_append, ← List.append_assoc] at cut
      exact last.none_later between later (List.append_singleton_inj.mp cut).1

theorem Remaps.concat (remaps : start.Remaps steps) (step : Step) :
    start.Remaps (steps ++ [step]) := by
  obtain ⟨between, update, later, rfl, accepted⟩ := remaps
  exact ⟨between, update, later ++ [step], by simp, accepted⟩

/-- The last pass that looked at the entity found the bearing that it has now, and the translator as it
is now, if no mapping was accepted since. -/
structure Judged (start : Process) (entity : EntityId) (steps before after : List Step) : Prop where
  last : start.LastPassOn entity steps before after
  bearing : (start.takeAll before).view.bearing entity =
    (start.takeAll steps).view.bearing entity
  translator : (start.takeAll before).translator = (start.takeAll steps).translator ∨
    (start.takeAll (before ++ [.pass])).Remaps after

theorem Judged.concat (judged : start.Judged entity steps before after)
    (blind : step = .pass → ¬ (start.takeAll steps).Examines entity)
    (bearing : ((start.takeAll steps).take step).view.bearing entity =
      (start.takeAll steps).view.bearing entity)
    (translator :
      ((start.takeAll steps).take step).translator = (start.takeAll steps).translator ∨
        ∃ update, step = .map update ∧ (start.takeAll steps).translator.accepts update) :
    start.Judged entity (steps ++ [step]) before (after ++ [step]) where
  last := judged.last.concat blind
  bearing := by rw [takeAll_concat, bearing, judged.bearing]
  translator := by
    rw [takeAll_concat]
    rcases translator with same | ⟨update, rfl, accepted⟩
    · rw [same]
      exact judged.translator.imp_right fun remaps => remaps.concat step
    · refine .inr ⟨after, update, [], rfl, ?_⟩
      rw [← takeAll_append, List.append_assoc, List.singleton_append, ← judged.last.cut]
      exact accepted

/-- An entity that is not queued although its bearing is complete has been judged. -/
theorem exists_judged (start : Process) (blank : start.view = .empty) (entity : EntityId)
    (steps : List Step) (idle : (start.takeAll steps).enforcer.pending.contains entity = false)
    (complete : ((start.takeAll steps).view.bearing entity).Complete) :
    ∃ before after, start.Judged entity steps before after := by
  induction steps using List.reverseRecOn with
  | nil =>
    -- a blank view knows of no entity
    rw [takeAll, List.foldl_nil, blank, View.bearing_empty] at complete
    cases complete.authority
  | append_singleton steps step ih =>
    rw [takeAll_concat] at idle complete
    cases step with
    | receive op =>
      -- the message cannot have completed the bearing without queueing the entity
      have found := View.idle_and_bearing_of_apply
        (((start.takeAll steps).enforcer.contains_handle op entity).symm.trans idle) complete
      obtain ⟨before, after, judged⟩ := ih found.1 (found.2 ▸ complete)
      exact ⟨before, _, judged.concat (fun isPass => nomatch isPass) found.2 (.inl rfl)⟩
    | queue e =>
      -- had it been for this entity, the entity would be queued now
      have notQueued : (decide (e = entity) ||
          (start.takeAll steps).enforcer.pending.contains entity) = false :=
        ((start.takeAll steps).enforcer.contains_act (.queue e) entity).symm.trans idle
      obtain ⟨before, after, judged⟩ := ih (Bool.or_eq_false_iff.mp notQueued).2 complete
      exact ⟨before, _, judged.concat (fun isPass => nomatch isPass) rfl (.inl rfl)⟩
    | map update =>
      obtain ⟨before, after, judged⟩ := ih idle complete
      refine ⟨before, _, judged.concat (fun isPass => nomatch isPass) rfl ?_⟩
      cases accepted : (start.takeAll steps).translator.accepts update with
      | true => exact .inr ⟨update, rfl, accepted⟩
      | false => exact .inl (Translator.apply_of_refused accepted)
    | pass =>
      by_cases examined : (start.takeAll steps).Examines entity
      · -- this pass looks at the entity, so it is the last that does
        refine ⟨steps, [], ⟨rfl, examined, fun between later cut => ?_⟩, ?_, .inl ?_⟩
        · exact absurd cut.symm (List.append_ne_nil_of_right_ne_nil _ (List.cons_ne_nil _ _))
        · rw [takeAll_concat]
          rfl
        · rw [takeAll_concat]
          rfl
      · -- a pass that is blind to the entity changes nothing about it
        have notQueued := Bool.eq_false_iff.mpr (examines_iff.not.mp examined)
        obtain ⟨before, after, judged⟩ := ih notQueued complete
        exact ⟨before, _, judged.concat (fun _ => examined) rfl (.inl rfl)⟩

/-- Whatever happened to a worker since it was made: if an entity is not queued but the worker, were it
to decide now, would ask for its handover, then some pass has looked at the entity, and the last one
that did asked for it just once and for just that, unless a mapping was accepted after it. -/
theorem no_lost_trigger (name translator : WorkerName) (strategy : Option Strategy)
    (steps : List Step) (entity : EntityId) (request : AclRequest) :
    let start := fresh name translator strategy
    let now := start.takeAll steps
    now.enforcer.pending.contains entity = false →
      evaluate entity now.view now.translator = .ok request →
        ∃ before after, start.LastPassOn entity steps before after ∧
          ((start.takeAll before).requests.filter (·.entity = entity) = [request] ∨
            (start.takeAll (before ++ [.pass])).Remaps after) := by
  intro start now idle asked
  obtain ⟨before, after, judged⟩ :=
    exists_judged start rfl entity steps idle (complete_of_evaluate asked)
  refine ⟨before, after, judged.last, judged.translator.imp_left fun same => ?_⟩
  refine filter_requests judged.last.examined ?_
  rw [evaluate_congr judged.bearing, same]
  exact asked

/-- An entity that becomes this worker's is handed over by the pass that follows, and a message that
steers nothing changes nothing about that. -/
theorem no_lost_trigger_handed_over :
    let steps : List Step := [
      .map ⟨[⟨⟨1⟩, ⟨"WorkerA"⟩, ⟨10⟩⟩, ⟨⟨2⟩, ⟨"WorkerB"⟩, ⟨11⟩⟩]⟩,
      .receive (.addComponent ⟨7⟩ (.intent ⟨2⟩)),
      .receive (.addComponent ⟨7⟩ (.accessList .empty)),
      .receive (.addComponent ⟨7⟩ (.presence [100])),
      .receive (.changeAuthority ⟨7⟩ .accessList .authoritative),
      .pass,
      .receive (.addComponent ⟨7⟩ (.other 100))]
    let request : AclRequest := ⟨⟨7⟩, ⟨"WorkerB"⟩, .ofList [(100 : ComponentId)]⟩
    let start := fresh ⟨"WorkerA"⟩ ⟨"WorkerA"⟩ none
    let now := start.takeAll steps
    now.enforcer.pending.contains ⟨7⟩ = false ∧
      evaluate ⟨7⟩ now.view now.translator = .ok request ∧
        ∃ before after, start.LastPassOn ⟨7⟩ steps before after ∧
          ((start.takeAll before).requests.filter (·.entity = ⟨7⟩) = [request] ∨
            (start.takeAll (before ++ [.pass])).Remaps after) := by
  intro steps request start now
  have idle : now.enforcer.pending.contains ⟨7⟩ = false := by decide +kernel
  have asked : evaluate ⟨7⟩ now.view now.translator = .ok request := by rfl
  exact ⟨idle, asked, no_lost_trigger _ _ _ _ _ _ idle asked⟩

end Process

end Handover
