import Handover.Identifier

/-! # The queue of pending entities

A queue without repetition: entities leave in the order in which they first entered, and pushing one
that is already queued keeps its place.  Every entity that enters draws a ticket from a counter that
never goes back.  One table finds the entity of a ticket and gives the order, another finds the ticket
of an entity and answers membership, so that no operation walks through the queue.

That the two tables are inverse to each other, and that every ticket was drawn from the counter, is
part of the type.  From this follow the statements at the end: the queue is a list without repetition,
and each operation does to this list what its name says.
-/

namespace Handover

structure PendingQueue where
  /-- The queued entities by their tickets. -/
  byTicket : Std.ExtTreeMap Nat EntityId
  /-- The ticket of each queued entity. -/
  ticketOf : Std.ExtTreeMap EntityId Nat
  /-- The next ticket to be drawn. -/
  next : Nat
  inverse : ∀ {ticket : Nat} {entity : EntityId},
    byTicket[ticket]? = some entity ↔ ticketOf[entity]? = some ticket
  drawn : ∀ {ticket : Nat} {entity : EntityId}, byTicket[ticket]? = some entity → ticket < next

namespace PendingQueue

def empty : PendingQueue where
  byTicket := ∅
  ticketOf := ∅
  next := 0
  inverse := by simp
  drawn := by simp

instance : Inhabited PendingQueue := ⟨empty⟩

/-! ## Queries -/

/-- The queued entities, first entered first. -/
def toList (queue : PendingQueue) : List EntityId := queue.byTicket.toList.map (·.2)

def contains (queue : PendingQueue) (entity : EntityId) : Bool := queue.ticketOf.contains entity

def size (queue : PendingQueue) : Nat := queue.ticketOf.size

def isEmpty (queue : PendingQueue) : Bool := queue.ticketOf.isEmpty

/-! ## Operations

Each operation answers what it found beside the new queue. -/

theorem byTicket_next (queue : PendingQueue) : queue.byTicket[queue.next]? = none := by
  cases h : queue.byTicket[queue.next]? with
  | none => rfl
  | some _ => exact absurd (queue.drawn h) (Nat.lt_irrefl _)

/-- The queue with an entity at its end that was not queued before. -/
def append (queue : PendingQueue) (entity : EntityId) (absent : queue.ticketOf[entity]? = none) :
    PendingQueue where
  byTicket := queue.byTicket.insert queue.next entity
  ticketOf := queue.ticketOf.insert entity queue.next
  next := queue.next + 1
  inverse {ticket e} := by
    simp only [Std.ExtTreeMap.getElem?_insert, Std.LawfulEqCmp.compare_eq_iff_eq]
    by_cases last : queue.next = ticket
    · subst last
      by_cases same : entity = e
      · simp [same]
      · simp [same, ← queue.inverse, byTicket_next]
    · by_cases same : entity = e
      · subst same
        simp [last, queue.inverse, absent]
      · simp [last, same, queue.inverse]
  drawn {ticket e} h := by
    simp only [Std.ExtTreeMap.getElem?_insert, Std.LawfulEqCmp.compare_eq_iff_eq] at h
    split at h
    · omega
    · exact Nat.lt_succ_of_lt (queue.drawn h)

/-- Queues an entity and tells whether it was not queued yet. -/
def push (queue : PendingQueue) (entity : EntityId) : Bool × PendingQueue :=
  if absent : queue.ticketOf[entity]? = none then (true, queue.append entity absent)
  else (false, queue)

/-- Two queued entities are the same exactly if their tickets are. -/
theorem ticket_eq_iff {queue : PendingQueue} {t t' : Nat} {e e' : EntityId}
    (held : queue.ticketOf[e]? = some t) (held' : queue.ticketOf[e']? = some t') :
    t = t' ↔ e = e' := by
  constructor
  · rintro rfl
    exact Option.some.inj ((queue.inverse.mpr held).symm.trans (queue.inverse.mpr held'))
  · rintro rfl
    exact Option.some.inj (held.symm.trans held')

/-- The queue without an entity that was queued under a ticket. -/
def dropTicket (queue : PendingQueue) (entity : EntityId) (ticket : Nat)
    (queued : queue.ticketOf[entity]? = some ticket) : PendingQueue where
  byTicket := queue.byTicket.erase ticket
  ticketOf := queue.ticketOf.erase entity
  next := queue.next
  inverse {t e} := by
    simp only [Std.ExtTreeMap.getElem?_erase, Std.LawfulEqCmp.compare_eq_iff_eq,
      Option.ite_none_left_eq_some, queue.inverse]
    exact and_congr_left fun held => not_congr (ticket_eq_iff queued held)
  drawn {t e} h := by
    simp only [Std.ExtTreeMap.getElem?_erase, Option.ite_none_left_eq_some] at h
    exact queue.drawn h.2

/-- Takes an entity out of the queue and tells whether it was queued. -/
def remove (queue : PendingQueue) (entity : EntityId) : Bool × PendingQueue :=
  match queued : queue.ticketOf[entity]? with
  | some ticket => (true, queue.dropTicket entity ticket queued)
  | none => (false, queue)

/-- Takes out every entity, first entered first.  The counter keeps its place. -/
def drain (queue : PendingQueue) : List EntityId × PendingQueue :=
  (queue.toList, { empty with next := queue.next, drawn := by simp [empty] })

/-! ## The queue as a list

What the operations do is said by what they do to `toList`: `push` appends an absent entity and
`remove` takes one out, both keeping the order of the others. -/

@[simp] theorem toList_empty : empty.toList = [] := by simp [toList, empty]

@[simp] theorem mem_toList {queue : PendingQueue} {entity : EntityId} :
    entity ∈ queue.toList ↔ queue.contains entity := by
  rw [contains, Std.ExtTreeMap.contains_iff_mem, Std.ExtTreeMap.mem_iff_isSome_getElem?,
    Option.isSome_iff_exists]
  simp only [toList, List.mem_map, Prod.exists, Std.ExtTreeMap.mem_toList_iff_getElem?_eq_some,
    ← queue.inverse]
  simp

/-- The rows of a table of tickets come by ascending ticket. -/
theorem ascending (table : Std.ExtTreeMap Nat EntityId) :
    table.toList.Pairwise fun a b => a.1 < b.1 :=
  table.ordered_keys_toList.imp Nat.compare_eq_lt.mp

/-- Rows by ascending ticket are determined by their membership. -/
theorem rows_ext {rows rows' : List (Nat × EntityId)}
    (h : rows.Pairwise fun a b => a.1 < b.1) (h' : rows'.Pairwise fun a b => a.1 < b.1)
    (same : ∀ row, row ∈ rows ↔ row ∈ rows') : rows = rows' := by
  have nodup {l : List (Nat × EntityId)} (hl : l.Pairwise fun a b => a.1 < b.1) : l.Nodup :=
    hl.imp fun hab heq => absurd hab (by simp [heq])
  exact ((List.perm_ext_iff_of_nodup (nodup h) (nodup h')).mpr same).eq_of_pairwise
    (fun _ _ _ _ hab hba => absurd hab (Nat.lt_asymm hba)) h h'

theorem toList_append (queue : PendingQueue) (entity : EntityId)
    (absent : queue.ticketOf[entity]? = none) :
    (queue.append entity absent).toList = queue.toList ++ [entity] := by
  have rows : (queue.byTicket.insert queue.next entity).toList =
      queue.byTicket.toList ++ [(queue.next, entity)] := by
    refine rows_ext (ascending _) ?_ fun (ticket, e) => ?_
    · refine List.pairwise_append.mpr ⟨ascending _, by simp, ?_⟩
      intro row hrow last hlast
      rw [List.mem_singleton.mp hlast]
      exact queue.drawn (Std.ExtTreeMap.mem_toList_iff_getElem?_eq_some.mp hrow)
    · simp only [Std.ExtTreeMap.mem_toList_iff_getElem?_eq_some, Std.ExtTreeMap.getElem?_insert,
        Std.LawfulEqCmp.compare_eq_iff_eq, List.mem_append, List.mem_singleton, Prod.mk.injEq]
      by_cases same : queue.next = ticket
      · subst same
        simp [byTicket_next, eq_comm]
      · simp [same, Ne.symm same]
  simp [toList, append, rows]

theorem toList_dropTicket (queue : PendingQueue) (entity : EntityId) (ticket : Nat)
    (queued : queue.ticketOf[entity]? = some ticket) :
    (queue.dropTicket entity ticket queued).toList = queue.toList.filter (· ≠ entity) := by
  have rows : (queue.byTicket.erase ticket).toList =
      queue.byTicket.toList.filter (·.2 ≠ entity) := by
    refine rows_ext (ascending _) ((ascending _).filter _) fun (t, e) => ?_
    simp only [Std.ExtTreeMap.mem_toList_iff_getElem?_eq_some, Std.ExtTreeMap.getElem?_erase,
      Std.LawfulEqCmp.compare_eq_iff_eq, List.mem_filter, Option.ite_none_left_eq_some,
      queue.inverse, decide_eq_true_eq]
    rw [and_comm]
    exact and_congr_right fun held => not_congr ((ticket_eq_iff queued held).trans eq_comm)
  simp [toList, dropTicket, rows, List.filter_map, Function.comp_def]

theorem nodup_toList (queue : PendingQueue) : queue.toList.Nodup := by
  refine List.pairwise_map.mpr ((ascending _).imp_of_mem fun {a b} ha hb hab heq => ?_)
  have hb := queue.inverse.mp (Std.ExtTreeMap.mem_toList_iff_getElem?_eq_some.mp hb)
  have ha := queue.inverse.mp (Std.ExtTreeMap.mem_toList_iff_getElem?_eq_some.mp ha)
  rw [← heq, ha] at hb
  exact absurd hab (by simp [Option.some.inj hb])

theorem length_toList (queue : PendingQueue) : queue.toList.length = queue.size := by
  have distinct : queue.ticketOf.keys.Nodup :=
    queue.ticketOf.distinct_keys.imp fun h heq => h (by simp [heq])
  have same (entity : EntityId) : entity ∈ queue.toList ↔ entity ∈ queue.ticketOf.keys := by
    rw [mem_toList, contains, Std.ExtTreeMap.contains_iff_mem, Std.ExtTreeMap.mem_keys]
  rw [size, ← Std.ExtTreeMap.length_keys]
  exact ((List.perm_ext_iff_of_nodup queue.nodup_toList distinct).mpr same).length_eq

theorem push_new (queue : PendingQueue) (entity : EntityId) :
    (queue.push entity).1 = !queue.contains entity := by
  simp only [push, contains, Std.ExtTreeMap.contains_eq_isSome_getElem?]
  split <;> simp_all

theorem remove_found (queue : PendingQueue) (entity : EntityId) :
    (queue.remove entity).1 = queue.contains entity := by
  rw [remove, contains, Std.ExtTreeMap.contains_eq_isSome_getElem?]
  split <;> simp_all

theorem toList_push (queue : PendingQueue) (entity : EntityId) :
    (queue.push entity).2.toList =
      if queue.contains entity then queue.toList else queue.toList ++ [entity] := by
  simp only [push, contains, Std.ExtTreeMap.contains_eq_isSome_getElem?]
  split <;> simp_all [toList_append]

theorem toList_remove (queue : PendingQueue) (entity : EntityId) :
    (queue.remove entity).2.toList = queue.toList.filter (· ≠ entity) := by
  rw [remove]
  split
  case h_1 ticket queued => exact queue.toList_dropTicket entity ticket queued
  case h_2 absent =>
    refine (List.filter_eq_self.mpr fun e he => ?_).symm
    have held := mem_toList.mp he
    rw [contains, Std.ExtTreeMap.contains_eq_isSome_getElem?] at held
    refine decide_eq_true ?_
    rintro rfl
    simp [absent] at held

theorem toList_remove_erase (queue : PendingQueue) (entity : EntityId) :
    (queue.remove entity).2.toList = queue.toList.erase entity := by
  rw [toList_remove, queue.nodup_toList.erase_eq_filter]
  exact List.filter_congr fun e _ => by simp [bne, Bool.beq_eq_decide_eq]

@[simp] theorem toList_drain (queue : PendingQueue) : queue.drain.2.toList = [] := by
  simp [drain, toList, empty]

/-! ## The size -/

theorem isEmpty_toList (queue : PendingQueue) : queue.toList.isEmpty = queue.isEmpty := by
  rw [Bool.eq_iff_iff, List.isEmpty_iff_length_eq_zero, length_toList, isEmpty,
    Std.ExtTreeMap.isEmpty_eq_size_beq_zero, beq_iff_eq, size]

theorem size_push (queue : PendingQueue) (entity : EntityId) :
    (queue.push entity).2.size = queue.size + (queue.push entity).1.toNat := by
  rw [push_new, ← length_toList, toList_push, ← length_toList]
  cases queue.contains entity <;> simp

theorem size_remove (queue : PendingQueue) (entity : EntityId) :
    (queue.remove entity).2.size + (queue.remove entity).1.toNat = queue.size := by
  rw [remove_found, ← length_toList, ← length_toList, toList_remove_erase, List.length_erase]
  by_cases queued : entity ∈ queue.toList
  · have positive := List.length_pos_of_mem queued
    rw [if_pos queued, mem_toList.mp queued, Bool.toNat_true]
    omega
  · rw [if_neg queued, Bool.eq_false_iff.mpr (mt mem_toList.mpr queued), Bool.toNat_false]
    rfl

@[simp] theorem size_drain (queue : PendingQueue) : queue.drain.2.size = 0 := by
  rw [← length_toList, toList_drain, List.length_nil]

end PendingQueue

end Handover
