import Handover.Proofs.Identity
import Handover.Proofs.Process

/-! # What a pass decides

A request depends on four checks, made in a fixed order.  `Check.Passes` says what each of them asks of
the view and the translator, apart from the others and from the way the decision is computed: the
decision skips an entity for the first check that it fails (`firstFailing?_of_error`) and asks for it if
it passes all of them (`isOk_evaluate_iff`).

The check of the worker does not ask for the name it finds to be a valid one.  It need not, since a
translator only takes over mappings without reserved values (`Translator.named_applyAll`).
-/

namespace Handover

/-! ## What a view shows -/

namespace View

variable {view : View} {entity : EntityId}

theorem intent?_eq_some_iff {id : VirtualWorkerId} :
    view.intent? entity = some id ↔ view.component? entity .intent = some (.intent id) := by
  rw [intent?, Option.bind_eq_some_iff]
  constructor
  · rintro ⟨data, held, named⟩
    cases data with
    | intent worker => rw [held, Option.some.inj named]
    | presence _ | accessList _ | other _ => cases named
  · exact fun held => ⟨_, held, rfl⟩

theorem presence?_eq_some_iff {components : List ComponentId} :
    view.presence? entity = some components ↔
      view.component? entity .presence = some (.presence components) := by
  rw [presence?, Option.bind_eq_some_iff]
  constructor
  · rintro ⟨data, held, listed⟩
    cases data with
    | presence _ => rw [held, Option.some.inj listed]
    | intent _ | accessList _ | other _ => cases listed
  · exact fun held => ⟨_, held, rfl⟩

theorem mayHandOver_iff :
    view.mayHandOver entity ↔ view.authority entity .accessList = .authoritative := by
  simp [mayHandOver, mayWrite, Authority.permitsWrites]

end View

/-! ## Mapped names -/

namespace Translator

variable {translator : Translator}

theorem map_apply_of_accepts {update : MappingUpdate} (taken : translator.accepts update) :
    (translator.apply update).map = .ofEntries update.entries := by
  cases ready : translator.isReady with
  | true => rw [apply_of_ready taken ready]
  | false => rw [apply_of_not_ready taken ready]

/-- No virtual worker is mapped to the reserved name. -/
def Named (translator : Translator) : Prop :=
  ∀ {id : VirtualWorkerId} {worker : WorkerName},
    translator.worker? id = some worker → worker ≠ .nobody

theorem named_start (worker : WorkerName) (strategy : Option Strategy) :
    (start worker strategy).Named := by
  intro id worker mapped
  simp [start, worker?, WorkerMap.worker?, WorkerMap.empty] at mapped

theorem Named.apply (named : translator.Named) (update : MappingUpdate) :
    (translator.apply update).Named := by
  cases taken : translator.accepts update with
  | false =>
    rw [apply_of_refused taken]
    exact named
  | true =>
    intro id worker mapped
    rw [worker?, map_apply_of_accepts taken, WorkerMap.worker?, WorkerMap.rows_ofEntries,
      Option.map_map, Option.map_eq_some_iff] at mapped
    obtain ⟨entry, found, rfl⟩ := mapped
    have listed : entry ∈ update.entries := List.mem_reverse.mp (List.mem_of_find?_eq_some found)
    exact ((accepts_iff.mp taken).1 entry listed).2

theorem named_applyAll (worker : WorkerName) (strategy : Option Strategy)
    (updates : List MappingUpdate) : ((start worker strategy).applyAll updates).Named :=
  List.foldlRecOn updates _ (motive := Named) (named_start worker strategy)
    fun _ named update _ => named.apply update

theorem Named.resolveWorker?_eq_some_iff (named : translator.Named) {id : VirtualWorkerId}
    {owner : WorkerName} :
    translator.resolveWorker? id = some owner ↔
      translator.isReady ∧ translator.worker? id = some owner := by
  rw [resolveWorker?, Option.ite_none_right_eq_some, Option.filter_eq_some_iff]
  exact and_congr_right fun _ => and_iff_left_of_imp fun mapped => decide_eq_true (named mapped)

end Translator

/-! ## The checks -/

/-- What a request depends on, in the order in which it is checked. -/
inductive Check where
  | intent
  | worker
  | authority
  | presence
deriving DecidableEq

namespace Check

def all : List Check := [.intent, .worker, .authority, .presence]

/-- What each check asks of the entity. -/
def Passes (view : View) (translator : Translator) (entity : EntityId) : Check → Prop
  | .intent => ∃ id, view.component? entity .intent = some (.intent id) ∧ id ≠ .unassigned
  | .worker => translator.isReady ∧ ∃ id worker,
      view.component? entity .intent = some (.intent id) ∧ translator.worker? id = some worker
  | .authority => view.authority entity .accessList = .authoritative
  | .presence => ∃ components, view.component? entity .presence = some (.presence components)

variable {view : View} {translator : Translator} {entity : EntityId}

theorem passes_intent_iff :
    intent.Passes view translator entity ↔ ∃ id, view.intent? entity = some id ∧ id.isValid := by
  simp [Passes, View.intent?_eq_some_iff, VirtualWorkerId.isValid]

theorem passes_worker_iff (named : translator.Named) :
    worker.Passes view translator entity ↔
      ∃ id owner, view.intent? entity = some id ∧ translator.resolveWorker? id = some owner := by
  simp only [Passes, View.intent?_eq_some_iff, named.resolveWorker?_eq_some_iff]
  constructor
  · rintro ⟨ready, id, owner, intended, mapped⟩
    exact ⟨id, owner, intended, ready, mapped⟩
  · rintro ⟨id, owner, intended, ready, mapped⟩
    exact ⟨ready, id, owner, intended, mapped⟩

theorem passes_presence_iff :
    presence.Passes view translator entity ↔ (view.presence? entity).isSome := by
  simp [Passes, Option.isSome_iff_exists, View.presence?_eq_some_iff]

instance : (check : Check) → Decidable (check.Passes view translator entity)
  | .intent =>
    decidable_of_iff (∃ id ∈ view.intent? entity, id.isValid) (by simp [passes_intent_iff])
  | .worker =>
    decidable_of_iff (translator.isReady ∧ ∃ id ∈ view.intent? entity, (translator.worker? id).isSome)
      (by simp [Passes, Option.isSome_iff_exists, View.intent?_eq_some_iff])
  | .authority => inferInstanceAs (Decidable (_ = _))
  | .presence => decidable_of_iff _ passes_presence_iff.symm

def firstFailing? (view : View) (translator : Translator) (entity : EntityId) : Option Check :=
  all.find? fun check => ¬ check.Passes view translator entity

/-- The counter of the entities that fail at a check. -/
def count (check : Check) (counts : SkipCounts) : Nat :=
  match check with
  | .intent => counts.noIntent
  | .worker => counts.unresolved
  | .authority => counts.notAuthoritative
  | .presence => counts.noPresence

end Check

def SkipReason.check : SkipReason → Check
  | .noIntent => .intent
  | .unresolved _ => .worker
  | .notAuthoritative => .authority
  | .noPresence => .presence

/-! ## Decisions -/

section

variable {view : View} {translator : Translator} {entity : EntityId}

theorem firstFailing?_of_ok (named : translator.Named) {request : AclRequest}
    (asked : evaluate entity view translator = .ok request) :
    Check.firstFailing? view translator entity = none := by
  obtain ⟨id, owner, components, intended, valid, resolved, authoritative, present, _⟩ :=
    Process.evaluate_eq_ok.mp asked
  have first : Check.intent.Passes view translator entity :=
    Check.passes_intent_iff.mpr ⟨id, intended, valid⟩
  have second : Check.worker.Passes view translator entity :=
    (Check.passes_worker_iff named).mpr ⟨id, owner, intended, resolved⟩
  have third : Check.authority.Passes view translator entity := View.mayHandOver_iff.mp authoritative
  have fourth : Check.presence.Passes view translator entity :=
    Check.passes_presence_iff.mpr (Option.isSome_of_eq_some present)
  simp [Check.firstFailing?, Check.all, first, second, third, fourth]

/-- An entity is skipped for a reason that holds after the checks before it have passed. -/
theorem cases_of_skipped {reason : SkipReason}
    (skipped : evaluate entity view translator = .error reason) :
    (reason = .noIntent ∧ ∀ id, view.intent? entity = some id → ¬ id.isValid) ∨
      ∃ id, view.intent? entity = some id ∧ id.isValid ∧
        ((reason = .unresolved id ∧ translator.resolveWorker? id = none) ∨
          ∃ owner, translator.resolveWorker? id = some owner ∧
            ((reason = .notAuthoritative ∧ ¬ view.mayHandOver entity) ∨
              (reason = .noPresence ∧ view.mayHandOver entity ∧ view.presence? entity = none))) := by
  -- where the decision goes on to the next check, the one before has passed
  rw [evaluate] at skipped
  split at skipped
  case h_1 unintended =>
    cases skipped
    exact .inl ⟨rfl, fun id => Option.filter_eq_none_iff.mp unintended id⟩
  case h_2 id kept =>
    obtain ⟨intended, valid⟩ := Option.filter_eq_some_iff.mp kept
    refine .inr ⟨id, intended, valid, ?_⟩
    split at skipped
    case h_1 unresolved =>
      cases skipped
      exact .inl ⟨rfl, unresolved⟩
    case h_2 owner resolved =>
      refine .inr ⟨owner, resolved, ?_⟩
      split at skipped
      case isFalse forbidden =>
        cases skipped
        exact .inl ⟨rfl, forbidden⟩
      case isTrue authoritative =>
        split at skipped
        case h_2 => cases skipped
        case h_1 absent =>
          cases skipped
          exact .inr ⟨rfl, authoritative, absent⟩

theorem firstFailing?_of_error (named : translator.Named) {reason : SkipReason}
    (skipped : evaluate entity view translator = .error reason) :
    Check.firstFailing? view translator entity = some reason.check := by
  have intent := @Check.passes_intent_iff view translator entity
  have worker := @Check.passes_worker_iff view translator entity named
  have authority : Check.authority.Passes view translator entity ↔ view.mayHandOver entity :=
    View.mayHandOver_iff.symm
  have presence := @Check.passes_presence_iff view translator entity
  rcases cases_of_skipped skipped with ⟨rfl, unintended⟩ | ⟨id, intended, valid, later⟩
  · have fails : ¬ Check.intent.Passes view translator entity := by
      rw [intent]
      exact fun ⟨id, intended, valid⟩ => unintended id intended valid
    simp [Check.firstFailing?, Check.all, fails, SkipReason.check]
  · have first := intent.mpr ⟨id, intended, valid⟩
    rcases later with ⟨rfl, unresolved⟩ | ⟨owner, resolved, ⟨rfl, forbidden⟩ | ⟨rfl, held, absent⟩⟩
    · simp [Check.firstFailing?, Check.all, first, worker, intended, unresolved, SkipReason.check]
    · have second := worker.mpr ⟨id, owner, intended, resolved⟩
      simp [Check.firstFailing?, Check.all, first, second, authority, forbidden, SkipReason.check]
    · have second := worker.mpr ⟨id, owner, intended, resolved⟩
      simp [Check.firstFailing?, Check.all, first, second, authority, held, presence, absent,
        SkipReason.check]

theorem isOk_evaluate_iff (named : translator.Named) :
    (evaluate entity view translator).isOk ↔
      ∀ check ∈ Check.all, check.Passes view translator entity := by
  have complete : Check.firstFailing? view translator entity = none ↔
      ∀ check ∈ Check.all, check.Passes view translator entity := by
    simp [Check.firstFailing?, List.find?_eq_none]
  rw [← complete]
  cases decided : evaluate entity view translator with
  | ok request => simp [firstFailing?_of_ok named decided, Except.isOk, Except.toBool]
  | error reason => simp [firstFailing?_of_error named decided, Except.isOk, Except.toBool]

end

/-! ## Counting skips -/

theorem Check.count_record (check : Check) (counts : SkipCounts) (reason : SkipReason) :
    check.count (counts.record reason) =
      check.count counts + if reason.check = check then 1 else 0 := by
  cases check <;> cases reason <;> simp [count, SkipCounts.record, SkipReason.check]

theorem Check.count_foldl_record (check : Check) (counts : SkipCounts) (reasons : List SkipReason) :
    check.count (reasons.foldl .record counts) =
      check.count counts + reasons.countP (·.check = check) := by
  induction reasons generalizing counts with
  | nil => rfl
  | cons reason reasons ih =>
    rw [List.foldl_cons, ih, count_record, List.countP_cons]
    simp only [decide_eq_true_eq]
    omega

namespace Enforcer

variable {view : View} {translator : Translator}

theorem count_process (enforcer : Enforcer) (named : translator.Named) (check : Check) :
    check.count (enforcer.process view translator).counts.skipped =
      check.count enforcer.counts.skipped + enforcer.pending.toList.countP
        (Check.firstFailing? view translator · = some check) := by
  have skips : ((enforcer.decisions view translator).filterMap Decision.skipped?).countP
      (·.check = check) = enforcer.pending.toList.countP
        (Check.firstFailing? view translator · = some check) := by
    rw [List.countP_filterMap, decisions, List.countP_map]
    refine List.countP_congr fun entity _ => ?_
    cases decided : evaluate entity view translator with
    | ok request => simp [Decision.skipped?, decided, firstFailing?_of_ok named decided]
    | error reason => simp [Decision.skipped?, decided, firstFailing?_of_error named decided]
  rw [process, Check.count_foldl_record, skips]

end Enforcer

/-! ## A pass -/

namespace Process

/-- A pass over the queue makes one request for each queued entity that passes all four checks, in the
order of the queue and for no other entity, and counts every other one at the first check it fails. -/
theorem coordinate_by_checks (process : Process) (worker : WorkerName) (strategy : Option Strategy)
    (updates : List MappingUpdate) :
    let before : Process :=
      { process with translator := (Translator.start worker strategy).applyAll updates }
    let queue := before.enforcer.pending.toList
    let after := before.coordinate.value
    before.requests.map (·.entity) = queue.filter (fun entity =>
        ∀ check ∈ Check.all, check.Passes before.view before.translator entity) ∧
      (before.requests.map (·.entity)).Nodup ∧
      (∀ request ∈ before.requests, ∃ id components,
        before.view.component? request.entity .intent = some (.intent id) ∧
        before.translator.worker? id = some request.owner ∧ request.owner ≠ .nobody ∧
        before.view.component? request.entity .presence = some (.presence components) ∧
        ∀ component, component ∈ request.components ↔ component ∈ components) ∧
      (∀ check : Check, check.count after.enforcer.counts.skipped =
        check.count before.enforcer.counts.skipped + queue.countP
          (Check.firstFailing? before.view before.translator · = some check)) ∧
      after.enforcer.pending.toList = [] ∧ after.view = before.view ∧
      after.translator = before.translator := by
  intro before queue after
  have named : before.translator.Named := Translator.named_applyAll worker strategy updates
  refine ⟨?_, before.nodup_requests, ?_, ?_, ?_, rfl, rfl⟩
  · rw [map_entity_requests]
    refine List.filter_congr fun entity _ => ?_
    rw [Bool.eq_iff_iff, isOk_evaluate_iff named, decide_eq_true_iff]
  · intro request asked
    obtain ⟨id, owner, components, intended, _, resolved, _, present, same⟩ :=
      evaluate_eq_ok.mp (mem_requests.mp asked).2
    obtain ⟨_, mapped⟩ := named.resolveWorker?_eq_some_iff.mp resolved
    rw [View.intent?_eq_some_iff] at intended
    rw [View.presence?_eq_some_iff] at present
    refine ⟨id, components, intended, ?_, ?_, present, fun component => ?_⟩
    · rw [same]; exact mapped
    · rw [same]; exact named mapped
    · rw [same, Std.ExtTreeSet.mem_ofList, List.contains_iff_mem]
  · exact before.enforcer.count_process named
  · exact before.enforcer.pending.toList_drain

/-- Of two queued entities, one has a bare number in the place of its intent; the other lists a
component twice. -/
theorem coordinate_by_checks_bare_intent :
    let view := [
      .addComponent ⟨8⟩ (.other 9980), .addComponent ⟨7⟩ (.intent ⟨2⟩),
      .addComponent ⟨7⟩ (.accessList .empty), .changeAuthority ⟨7⟩ .accessList .authoritative,
      .addComponent ⟨7⟩ (.presence [100, 54, 100])].foldl View.apply .empty
    let enforcer := ((Enforcer.start ⟨"ServerWorker1"⟩).act (.queue ⟨8⟩)).act (.queue ⟨7⟩)
    let mapping : MappingUpdate :=
      ⟨[⟨⟨1⟩, ⟨"ServerWorker1"⟩, ⟨1001⟩⟩, ⟨⟨2⟩, ⟨"ServerWorker2"⟩, ⟨1002⟩⟩]⟩
    let translator := (Translator.start ⟨"ServerWorker1"⟩ none).applyAll [mapping]
    let process : Process := ⟨⟨"ServerWorker1"⟩, translator, view, enforcer, [], []⟩
    let request : AclRequest := ⟨⟨7⟩, ⟨"ServerWorker2"⟩, .ofList [(100 : ComponentId), 54, 100]⟩
    process.requests = [request] ∧ request.owner ≠ .nobody ∧
      request.components.toList = [54, 100] ∧
      process.coordinate.value.enforcer.counts.skipped = ⟨1, 0, 0, 0⟩ := by
  intro view enforcer mapping translator process request
  have asked : process.requests = [request] := by rfl
  have member : request ∈ process.requests := by simp [asked]
  obtain ⟨_, _, named, _⟩ := coordinate_by_checks process ⟨"ServerWorker1"⟩ none [mapping]
  obtain ⟨_, _, _, _, nonempty, _⟩ := named request member
  exact ⟨asked, nonempty, by decide +kernel, by decide +kernel⟩

end Process

end Handover
