import Handover.Enforcer

/-! # Every queued entity is accounted for

An enforcer counts the entities that enter its queue and what becomes of each: a message drops it, or a
pass asks for it or skips it.  What has entered the queue and has not left it in one of these ways is
still there, whatever the enforcer is called for.

Many calls change nothing, as when an entity is queued that is queued already or dropped that is not.
The counts come out right because they follow what the queue says it did (`size_push`, `size_remove`)
and not what it was asked to do.
-/

namespace Handover

namespace SkipCounts

theorem total_record (counts : SkipCounts) (reason : SkipReason) :
    (counts.record reason).total = counts.total + 1 := by
  cases reason <;> simp only [record, total] <;> omega

theorem total_foldl_record (counts : SkipCounts) (reasons : List SkipReason) :
    (reasons.foldl record counts).total = counts.total + reasons.length := by
  induction reasons generalizing counts with
  | nil => rfl
  | cons reason reasons ih =>
    rw [List.foldl_cons, ih, total_record, List.length_cons]
    omega

end SkipCounts

/-- Every decision either makes a request or skips its entity. -/
theorem Decision.length_requested_add_length_skipped (decisions : List Decision) :
    (decisions.filterMap request?).length + (decisions.filterMap skipped?).length =
      decisions.length := by
  induction decisions with
  | nil => rfl
  | cons decision decisions ih =>
    obtain ⟨entity, result⟩ := decision
    cases result with
    | ok request =>
      have asks : request? ⟨entity, .ok request⟩ = some request := rfl
      have passes : skipped? ⟨entity, .ok request⟩ = none := rfl
      rw [List.filterMap_cons_some asks, List.filterMap_cons_none passes, List.length_cons,
        List.length_cons]
      omega
    | error reason =>
      have silent : request? ⟨entity, .error reason⟩ = none := rfl
      have skips : skipped? ⟨entity, .error reason⟩ = some reason := rfl
      rw [List.filterMap_cons_none silent, List.filterMap_cons_some skips, List.length_cons,
        List.length_cons]
      omega

namespace Enforcer

/-! ## Calls -/

inductive Call where
  | act (trigger : Trigger)
  /-- The worker's authority over the access list of an entity changed. -/
  | changeAuthority (entity : EntityId) (authority : Authority)
  | handle (op : WorkerOp)
  | process (view : View) (translator : Translator)

def Call.isPass : Call → Bool
  | .process .. => true
  | .act _ | .changeAuthority .. | .handle _ => false

/-- What a call means for the queue; a pass is no trigger. -/
def Call.trigger? : Call → Option Trigger
  | .act trigger => some trigger
  | .changeAuthority entity authority => Trigger.ofAuthority entity authority
  | .handle op => Trigger.ofOp op
  | .process .. => none

def call (enforcer : Enforcer) : Call → Enforcer
  | .act trigger => enforcer.act trigger
  | .changeAuthority entity authority =>
    match Trigger.ofAuthority entity authority with
    | some trigger => enforcer.act trigger
    | none => enforcer
  | .handle op => enforcer.handle op
  | .process view translator => enforcer.process view translator

def answer (enforcer : Enforcer) : Call → List AclRequest
  | .process view translator => enforcer.requests view translator
  | .act _ | .changeAuthority .. | .handle _ => []

def callAll (enforcer : Enforcer) (calls : List Call) : Enforcer := calls.foldl call enforcer

def answers (enforcer : Enforcer) : List Call → List AclRequest
  | [] => []
  | c :: calls => enforcer.answer c ++ (enforcer.call c).answers calls

theorem call_eq (enforcer : Enforcer) {c : Call} (noPass : c.isPass = false) :
    enforcer.call c = c.trigger?.elim enforcer enforcer.act := by
  cases c with
  | act trigger => rfl
  | changeAuthority entity authority => cases authority <;> rfl
  | handle op =>
    show enforcer.handle op = (Trigger.ofOp op).elim enforcer enforcer.act
    rw [handle]
    cases Trigger.ofOp op <;> rfl
  | process view translator => cases noPass

theorem answer_of_not_isPass (enforcer : Enforcer) {c : Call} (noPass : c.isPass = false) :
    enforcer.answer c = [] := by
  cases c with
  | process view translator => cases noPass
  | act _ | changeAuthority _ _ | handle _ => rfl

/-- A call is a pass, or it acts on one trigger or on none and returns nothing. -/
theorem call_cases (enforcer : Enforcer) (c : Call) :
    (∃ view translator, c = .process view translator) ∨
      (c.isPass = false ∧ enforcer.answer c = [] ∧
        ((∃ trigger, enforcer.call c = enforcer.act trigger) ∨ enforcer.call c = enforcer)) := by
  cases pass : c.isPass with
  | true =>
    cases c with
    | process view translator => exact .inl ⟨view, translator, rfl⟩
    | act _ | changeAuthority _ _ | handle _ => cases pass
  | false =>
    refine .inr ⟨rfl, enforcer.answer_of_not_isPass pass, ?_⟩
    rw [enforcer.call_eq pass]
    cases c.trigger? with
    | some trigger => exact .inl ⟨trigger, rfl⟩
    | none => exact .inr rfl

/-! ## What a call counts -/

variable {enforcer : Enforcer}

/-- How many calls of a row do something to the enforcer as they find it. -/
def countCalls (does : Enforcer → Call → Bool) (enforcer : Enforcer) : List Call → Nat
  | [] => 0
  | c :: calls => (does enforcer c).toNat + countCalls does (enforcer.call c) calls

/-- A counter that every call moves by at most one counts the calls that move it. -/
theorem counter_callAll (counter : Enforcer → Nat) {moves : Enforcer → Call → Bool}
    (step : ∀ enforcer c, counter (enforcer.call c) = counter enforcer + (moves enforcer c).toNat)
    (enforcer : Enforcer) (calls : List Call) :
    counter (enforcer.callAll calls) = counter enforcer + countCalls moves enforcer calls := by
  induction calls generalizing enforcer with
  | nil => rfl
  | cons c calls ih =>
    rw [callAll, List.foldl_cons, ← callAll, ih, step, countCalls, Nat.add_assoc]

theorem countCalls_eq_countP (does : Call → Bool) (enforcer : Enforcer) (calls : List Call) :
    countCalls (fun _ => does) enforcer calls = calls.countP does := by
  induction calls generalizing enforcer with
  | nil => rfl
  | cons c calls ih =>
    rw [countCalls, ih, List.countP_cons, Nat.add_comm]
    cases does c <;> rfl

theorem passes_call (enforcer : Enforcer) (c : Call) :
    (enforcer.call c).counts.passes = enforcer.counts.passes + c.isPass.toNat := by
  rcases enforcer.call_cases c with ⟨view, translator, rfl⟩ | ⟨noPass, _, ⟨trigger, acts⟩ | idle⟩
  · rfl
  · rw [acts, noPass]
    cases trigger <;> rfl
  · rw [idle, noPass]
    rfl

theorem requested_call (enforcer : Enforcer) (c : Call) :
    (enforcer.call c).counts.requested =
      enforcer.counts.requested + (enforcer.answer c).length := by
  rcases enforcer.call_cases c with ⟨view, translator, rfl⟩ | ⟨_, silent, ⟨trigger, acts⟩ | idle⟩
  · rfl
  · rw [acts, silent]
    cases trigger <;> rfl
  · rw [idle, silent]
    rfl

theorem passes_callAll (enforcer : Enforcer) (calls : List Call) :
    (enforcer.callAll calls).counts.passes =
      enforcer.counts.passes + calls.countP Call.isPass := by
  rw [counter_callAll (·.counts.passes) passes_call, countCalls_eq_countP]

theorem requested_callAll (enforcer : Enforcer) (calls : List Call) :
    (enforcer.callAll calls).counts.requested =
      enforcer.counts.requested + (enforcer.answers calls).length := by
  induction calls generalizing enforcer with
  | nil => rfl
  | cons c calls ih =>
    rw [callAll, List.foldl_cons, ← callAll, ih, requested_call, answers, List.length_append]
    omega

/-! ## Entering and leaving the queue

An entity enters with the calls that make the queue longer, and it is dropped with those that make it
shorter and are no passes. -/

def lengthens (enforcer : Enforcer) (c : Call) : Bool :=
  enforcer.pending.size < (enforcer.call c).pending.size

def shortens (enforcer : Enforcer) (c : Call) : Bool :=
  c.isPass = false ∧ (enforcer.call c).pending.size < enforcer.pending.size

theorem size_process (enforcer : Enforcer) (view : View) (translator : Translator) :
    (enforcer.process view translator).pending.size = 0 :=
  enforcer.pending.size_drain

theorem queued_call (enforcer : Enforcer) (c : Call) :
    (enforcer.call c).counts.queued = enforcer.counts.queued + (enforcer.lengthens c).toNat := by
  -- a pass empties the queue, and of the triggers only one that queues can make it longer
  rw [lengthens]
  rcases enforcer.call_cases c with ⟨view, translator, rfl⟩ | ⟨_, _, ⟨trigger, acts⟩ | idle⟩
  · rw [call, size_process, decide_eq_false (Nat.not_lt_zero _)]
    rfl
  · rw [acts]
    cases trigger with
    | queue entity =>
      have size := enforcer.pending.size_push entity
      simp only [act, size]
      cases (enforcer.pending.push entity).1 <;> simp
    | drop entity =>
      have size := enforcer.pending.size_remove entity
      have shorter : ¬ enforcer.pending.size < (enforcer.pending.remove entity).2.size := by omega
      simp only [act, shorter, decide_false, Bool.toNat_false, Nat.add_zero]
  · rw [idle, decide_eq_false (Nat.lt_irrefl _)]
    rfl

theorem dropped_call (enforcer : Enforcer) (c : Call) :
    (enforcer.call c).counts.dropped = enforcer.counts.dropped + (enforcer.shortens c).toNat := by
  -- a pass makes the queue shorter too, but it drops nothing
  rw [shortens]
  rcases enforcer.call_cases c with ⟨view, translator, rfl⟩ | ⟨noPass, _, ⟨trigger, acts⟩ | idle⟩
  · rfl
  · rw [acts, noPass]
    cases trigger with
    | queue entity =>
      have size := enforcer.pending.size_push entity
      have longer : ¬ (enforcer.pending.push entity).2.size < enforcer.pending.size := by omega
      simp only [act, longer, and_false, decide_false, Bool.toNat_false, Nat.add_zero]
    | drop entity =>
      have size := enforcer.pending.size_remove entity
      simp only [act, ← size]
      cases (enforcer.pending.remove entity).1 <;> simp
  · rw [idle, decide_eq_false fun shorter => Nat.lt_irrefl _ shorter.2]
    rfl

/-- The enforcer counts the calls that made its queue longer. -/
theorem queued_callAll (enforcer : Enforcer) (calls : List Call) :
    (enforcer.callAll calls).counts.queued =
      enforcer.counts.queued + countCalls lengthens enforcer calls :=
  counter_callAll (·.counts.queued) queued_call enforcer calls

/-- The enforcer counts the calls, other than passes, that made its queue shorter. -/
theorem dropped_callAll (enforcer : Enforcer) (calls : List Call) :
    (enforcer.callAll calls).counts.dropped =
      enforcer.counts.dropped + countCalls shortens enforcer calls :=
  counter_callAll (·.counts.dropped) dropped_call enforcer calls

/-! ## The account -/

/-- What has entered the queue was dropped, asked for or skipped, or is still queued. -/
def Balanced (enforcer : Enforcer) : Prop :=
  enforcer.counts.queued =
    enforcer.counts.dropped + enforcer.counts.requested + enforcer.counts.skipped.total +
      enforcer.pending.size

theorem Balanced.act (balanced : enforcer.Balanced) (trigger : Trigger) :
    (enforcer.act trigger).Balanced := by
  rw [Balanced] at balanced
  -- the counter moves by what the queue says it did, which is by how much its size changed
  cases trigger with
  | queue entity =>
    have size := enforcer.pending.size_push entity
    simp only [Balanced, Enforcer.act, size]
    omega
  | drop entity =>
    have size := enforcer.pending.size_remove entity
    simp only [Balanced, Enforcer.act]
    omega

theorem Balanced.process (balanced : enforcer.Balanced) (view : View) (translator : Translator) :
    (enforcer.process view translator).Balanced := by
  -- a pass takes everything out of the queue and decides about each entity once
  have decided := Decision.length_requested_add_length_skipped (enforcer.decisions view translator)
  have listed : (enforcer.decisions view translator).length = enforcer.pending.size := by
    rw [decisions, List.length_map, PendingQueue.length_toList]
  have skipped := enforcer.counts.skipped.total_foldl_record
    ((enforcer.decisions view translator).filterMap Decision.skipped?)
  rw [Balanced] at balanced
  simp only [Balanced, Enforcer.process, PendingQueue.size_drain, skipped]
  omega

theorem Balanced.call (balanced : enforcer.Balanced) (c : Call) : (enforcer.call c).Balanced := by
  rcases enforcer.call_cases c with ⟨view, translator, rfl⟩ | ⟨_, _, ⟨trigger, acts⟩ | idle⟩
  · exact balanced.process view translator
  · rw [acts]
    exact balanced.act trigger
  · rw [idle]
    exact balanced

theorem Balanced.callAll (balanced : enforcer.Balanced) (calls : List Call) :
    (enforcer.callAll calls).Balanced :=
  List.foldlRecOn calls _ (motive := Balanced) balanced fun _ kept c _ => kept.call c

/-- Whatever a new enforcer was called for, every entity that entered its queue is accounted for once:
it was dropped, asked for, skipped, or is still queued.  The enforcer has counted its passes, all the
requests that it returned, the calls that made its queue longer, and those other than passes that made
it shorter. -/
theorem queued_accounted_for (worker : WorkerName) (calls : List Call) :
    let now := (start worker).callAll calls
    now.counts.queued =
        now.counts.dropped + now.counts.requested + now.counts.skipped.total + now.pending.size ∧
      now.counts.passes = calls.countP Call.isPass ∧
      now.counts.requested = ((start worker).answers calls).length ∧
      now.counts.queued = countCalls lengthens (start worker) calls ∧
      now.counts.dropped = countCalls shortens (start worker) calls := by
  intro now
  have blank : (start worker).Balanced := rfl
  refine ⟨blank.callAll calls, ?_, ?_, ?_, ?_⟩
  · rw [passes_callAll]
    exact Nat.zero_add _
  · rw [requested_callAll]
    exact Nat.zero_add _
  · rw [queued_callAll]
    exact Nat.zero_add _
  · rw [dropped_callAll]
    exact Nat.zero_add _

end Enforcer

end Handover
