import Handover.PendingQueue

/-! # The queue as a list, with earlier versions

A queue can be kept and put back later.  A *session* with a queue is a row of steps, each of which
changes the queue or returns to any earlier version of it.  The same session can be held with a plain
list: `push` appends an absent entity, `remove` erases one and `drain` takes all.

That both sessions go along is shown for one step of any session (`Session.map_step`) and needs no
invariant, since a queue is a list without repetition by its type.  The bound on the counter of tickets
needs one, over all versions: to return to a version is to return to its counter as well.
-/

namespace Handover.PendingQueue

/-! ## Sessions -/

inductive Change where
  | push (entity : EntityId)
  | remove (entity : EntityId)
  | drain

inductive Answer where
  | pushed (fresh : Bool)
  | removed (queued : Bool)
  | drained (entities : List EntityId)
deriving DecidableEq

inductive Step where
  | change (change : Change)
  /-- Back to an earlier version; the one before the last step is number 0. -/
  | restore (back : Nat)

structure Session (α : Type) where
  now : α
  /-- The versions before each step, the latest first. -/
  past : List α
  /-- The answers, the latest first. -/
  answers : List Answer

namespace Session

variable {α β : Type}

def start (first : α) : Session α := ⟨first, [], []⟩

/-- One step with what makes changes.  Without a version so far back nothing is restored. -/
def step (perform : α → Change → Answer × α) (session : Session α) : Step → Session α
  | .change change =>
    let (answer, next) := perform session.now change
    ⟨next, session.now :: session.past, answer :: session.answers⟩
  | .restore back =>
    ⟨session.past[back]?.getD session.now, session.now :: session.past, session.answers⟩

def run (perform : α → Change → Answer × α) (first : α) (steps : List Step) : Session α :=
  steps.foldl (step perform) (start first)

def map (view : α → β) (session : Session α) : Session β :=
  ⟨view session.now, session.past.map view, session.answers⟩

def entered (session : Session α) : Nat := session.answers.count (.pushed true)

section

variable {perform : α → Change → Answer × α} {perform' : β → Change → Answer × β} {view : α → β}

theorem entered_change (session : Session α) (change : Change) :
    (session.step perform (.change change)).entered =
      session.entered + [(perform session.now change).1].count (.pushed true) := by
  change ((perform session.now change).1 :: session.answers).count _ = _
  rw [← List.singleton_append, List.count_append, Nat.add_comm, entered]

/-- A view that changes go along with goes along with every step. -/
theorem map_step (along : ∀ a change,
      perform' (view a) change = ((perform a change).1, view (perform a change).2))
    (session : Session α) (step : Step) :
    (session.step perform step).map view = (session.map view).step perform' step := by
  cases step with
  | change change => simp only [Session.step, map, along, List.map_cons]
  | restore back =>
    simp only [Session.step, map, List.map_cons, List.getElem?_map]
    rw [Option.getD_map]

theorem map_run (along : ∀ a change,
      perform' (view a) change = ((perform a change).1, view (perform a change).2))
    (first : α) (steps : List Step) :
    (run perform first steps).map view = run perform' (view first) steps :=
  (List.foldl_hom (map view) fun session step => (map_step along session step).symm).symm

end

end Session

/-! ## The changes of a queue and of a list -/

def change (queue : PendingQueue) : Change → Answer × PendingQueue
  | .push entity => (.pushed (queue.push entity).1, (queue.push entity).2)
  | .remove entity => (.removed (queue.remove entity).1, (queue.remove entity).2)
  | .drain => (.drained queue.drain.1, queue.drain.2)

def changeList (entities : List EntityId) : Change → Answer × List EntityId
  | .push entity =>
    if entity ∈ entities then (.pushed false, entities) else (.pushed true, entities ++ [entity])
  | .remove entity => (.removed (entity ∈ entities), entities.erase entity)
  | .drain => (.drained entities, [])

theorem changeList_toList (queue : PendingQueue) (change : Change) :
    changeList queue.toList change =
      ((queue.change change).1, (queue.change change).2.toList) := by
  cases change with
  | push entity =>
    rw [PendingQueue.change, toList_push, push_new, changeList]
    cases queued : queue.contains entity with
    | true => rw [if_pos (mem_toList.mpr queued)]; rfl
    | false => rw [if_neg (by simp [queued])]; rfl
  | remove entity =>
    rw [PendingQueue.change, toList_remove_erase, remove_found, changeList]
    simp
  | drain => rw [PendingQueue.change, toList_drain]; rfl

/-! ## The counter -/

theorem next_push (queue : PendingQueue) (entity : EntityId) :
    (queue.push entity).2.next = queue.next + (queue.push entity).1.toNat := by
  rw [push]
  split <;> rfl

theorem next_remove (queue : PendingQueue) (entity : EntityId) :
    (queue.remove entity).2.next = queue.next := by
  rw [remove]
  split <;> rfl

theorem next_change (queue : PendingQueue) (change : Change) :
    (queue.change change).2.next = queue.next + [(queue.change change).1].count (.pushed true) := by
  cases change with
  | push entity =>
    rw [PendingQueue.change, next_push]
    cases (queue.push entity).1 <;> rfl
  | remove entity => exact queue.next_remove entity
  | drain => rfl

/-- No version has drawn more tickets than there are entities that entered. -/
structure Session.Counted (session : Session PendingQueue) : Prop where
  now : session.now.next ≤ session.entered
  past : ∀ queue ∈ session.past, queue.next ≤ session.entered

theorem Session.Counted.step {session : Session PendingQueue} (counted : session.Counted)
    (step : Step) : (session.step change step).Counted := by
  have all : ∀ queue ∈ session.now :: session.past, queue.next ≤ session.entered :=
    List.forall_mem_cons.mpr ⟨counted.now, counted.past⟩
  cases step with
  | change c =>
    refine ⟨?_, fun queue member => ?_⟩
    · change (session.now.change c).2.next ≤ _
      rw [entered_change, next_change]
      exact Nat.add_le_add_right counted.now _
    · rw [entered_change]
      exact Nat.le_add_right_of_le (all queue member)
  | restore back =>
    -- the version that is put back may be much older, but all of them are counted
    refine ⟨?_, all⟩
    change (session.past[back]?.getD session.now).next ≤ session.entered
    cases found : session.past[back]? with
    | none => exact counted.now
    | some queue => exact counted.past queue (List.mem_of_getElem? found)

theorem Session.counted_run (steps : List Step) : (Session.run change empty steps).Counted :=
  List.foldlRecOn steps _ (motive := Session.Counted) ⟨Nat.le_refl 0, nofun⟩
    fun _ counted step _ => counted.step step

/-! ## Both sessions together -/

/-- A session with a new queue and the same session with an empty list answer the same.  At its end the
list repeats nothing, and the queue lists it, holds just its members, and is as long.  The tables of the
queue are inverse to each other, every ticket is below the counter, and the counter is at most the number
of entities that entered, so that it stays within 64 bits as long as fewer than 2 ^ 64 did. -/
theorem session_on_list (steps : List Step) :
    let session := Session.run change empty steps
    let onList := Session.run changeList [] steps
    let queue := session.now
    session.answers = onList.answers ∧
      (queue.toList = onList.now ∧ onList.now.Nodup ∧
        (∀ entity, queue.contains entity ↔ entity ∈ onList.now) ∧
        queue.size = onList.now.length ∧ queue.isEmpty = onList.now.isEmpty) ∧
      (∀ (ticket : Nat) (entity : EntityId),
        queue.byTicket[ticket]? = some entity ↔ queue.ticketOf[entity]? = some ticket) ∧
      (∀ ticket ∈ queue.byTicket, ticket < queue.next) ∧
      queue.next ≤ onList.entered := by
  intro session onList queue
  -- the list is at every step what the queue lists
  have same : session.map toList = onList := by
    rw [Session.map_run changeList_toList, toList_empty]
  have answers : session.answers = onList.answers := congrArg Session.answers same
  have list : queue.toList = onList.now := congrArg Session.now same
  refine ⟨answers, ⟨list, ?_, fun entity => ?_, ?_, ?_⟩, fun ticket entity => queue.inverse,
    fun ticket drawn => ?_, ?_⟩
  · rw [← list]
    exact queue.nodup_toList
  · rw [← list, mem_toList]
  · rw [← list, length_toList]
  · rw [← list, isEmpty_toList]
  · rw [Std.ExtTreeMap.mem_iff_isSome_getElem?, Option.isSome_iff_exists] at drawn
    exact queue.drawn drawn.choose_spec
  · rw [Session.entered, ← answers]
    exact (Session.counted_run steps).now

/-- A queue that is put back goes on with the tickets of that version. -/
theorem session_on_list_restored :
    let steps : List Step := [.change (.push ⟨1⟩), .change (.push ⟨2⟩), .change .drain,
      .change (.push ⟨3⟩), .restore 1, .change (.push ⟨4⟩), .change (.remove ⟨1⟩)]
    let session := Session.run change empty steps
    session.answers = [.removed true, .pushed true, .pushed true, .drained [⟨1⟩, ⟨2⟩], .pushed true,
        .pushed true] ∧
      session.now.toList = [⟨2⟩, ⟨4⟩] ∧ 2 ∈ session.now.byTicket ∧ 2 < session.now.next := by
  intro steps session
  have drawn : 2 ∈ session.now.byTicket := by decide +kernel
  obtain ⟨answers, ⟨list, _⟩, _, below, _⟩ := session_on_list steps
  refine ⟨answers.trans ?_, list.trans ?_, drawn, below 2 drawn⟩ <;> decide +kernel

end Handover.PendingQueue
