import Handover.Proofs.Accounting
import Mathlib.Data.List.DropRight
import Mathlib.Data.List.Induction
import Mathlib.Data.List.Sort

/-! # The queue as told by its history

An enforcer keeps its queue up to date call by call.  Here the queue is told from the whole history of
calls: an entity *waits* if some call has queued it since it was last dropped or a pass was made, and
the first such call is its *entry*.  The queue lists just the entities that wait, in the order of their
entries (`lists_callAll`).

What carries the induction is that a call moves no entry but that of an entity it newly queues
(`Call.entry_concat_of_waits`), and that one comes last (`Call.entry_concat_of_queues`).  An entity that
is queued again while it waits keeps its entry; one that was dropped in between gets a new one.
-/

namespace Handover.Enforcer

namespace Call

/-! ## Events of one entity -/

inductive Queues (entity : EntityId) : Call → Prop where
  | asked : Queues entity (.act (.queue entity))
  | gained : Queues entity (.changeAuthority entity .authoritative)
  | added {data : ComponentData} (steers : data.component = .intent ∨ data.component = .presence) :
      Queues entity (.handle (.addComponent entity data))
  | updated {data : ComponentData} (steers : data.component = .intent ∨ data.component = .presence) :
      Queues entity (.handle (.updateComponent entity data))
  | granted : Queues entity (.handle (.changeAuthority entity .accessList .authoritative))

inductive Drops (entity : EntityId) : Call → Prop where
  | asked : Drops entity (.act (.drop entity))
  | lost : Drops entity (.changeAuthority entity .notAuthoritative)
  | removed {component : ComponentId}
      (steers : component = .accessList ∨ component = .intent ∨ component = .presence) :
      Drops entity (.handle (.removeComponent entity component))
  | revoked : Drops entity (.handle (.changeAuthority entity .accessList .notAuthoritative))
  | vanished : Drops entity (.handle (.removeEntity entity))

variable {entity : EntityId} {c : Call}

/-- What a call triggers is one of the listed events. -/
theorem event_of_trigger? {trigger : Trigger} (triggers : c.trigger? = some trigger) :
    (∃ e, trigger = .queue e ∧ c.Queues e) ∨ (∃ e, trigger = .drop e ∧ c.Drops e) := by
  cases c with
  | act t =>
    obtain rfl := Option.some.inj triggers
    cases t with
    | queue e => exact .inl ⟨e, rfl, .asked⟩
    | drop e => exact .inr ⟨e, rfl, .asked⟩
  | changeAuthority e authority =>
    cases authority with
    | authoritative => exact .inl ⟨e, (Option.some.inj triggers).symm, .gained⟩
    | notAuthoritative => exact .inr ⟨e, (Option.some.inj triggers).symm, .lost⟩
    | lossImminent => cases triggers
  | handle op =>
    cases op with
    | addComponent e data =>
      obtain ⟨steers, same⟩ := Option.ite_none_right_eq_some.mp triggers
      exact .inl ⟨e, (Option.some.inj same).symm, .added steers⟩
    | updateComponent e data =>
      obtain ⟨steers, same⟩ := Option.ite_none_right_eq_some.mp triggers
      exact .inl ⟨e, (Option.some.inj same).symm, .updated steers⟩
    | removeComponent e component =>
      obtain ⟨steers, same⟩ := Option.ite_none_right_eq_some.mp triggers
      exact .inr ⟨e, (Option.some.inj same).symm, .removed (of_decide_eq_true steers)⟩
    | changeAuthority e component authority =>
      obtain ⟨rfl, same⟩ := Option.ite_none_right_eq_some.mp triggers
      cases authority with
      | authoritative => exact .inl ⟨e, (Option.some.inj same).symm, .granted⟩
      | notAuthoritative => exact .inr ⟨e, (Option.some.inj same).symm, .revoked⟩
      | lossImminent => cases same
    | removeEntity e => exact .inr ⟨e, (Option.some.inj triggers).symm, .vanished⟩
  | process view translator => cases triggers

theorem queues_iff : c.Queues entity ↔ c.trigger? = some (.queue entity) := by
  constructor
  · intro queues
    cases queues with
    | asked | gained | granted => rfl
    | added steers | updated steers => exact if_pos steers
  · intro triggers
    rcases event_of_trigger? triggers with ⟨e, same, queues⟩ | ⟨e, same, _⟩
    · cases same
      exact queues
    · cases same

theorem drops_iff : c.Drops entity ↔ c.trigger? = some (.drop entity) := by
  constructor
  · intro drops
    cases drops with
    | asked | lost | revoked | vanished => rfl
    | removed steers => exact if_pos (decide_eq_true steers)
  · intro triggers
    rcases event_of_trigger? triggers with ⟨e, same, _⟩ | ⟨e, same, drops⟩
    · cases same
    · cases same
      exact drops

instance : Decidable (c.Queues entity) := decidable_of_iff _ queues_iff.symm

instance : Decidable (c.Drops entity) := decidable_of_iff _ drops_iff.symm

/-- The calls after which an entity is not queued, whatever it was before. -/
def Clears (entity : EntityId) (c : Call) : Prop := c.isPass ∨ c.Drops entity

instance : Decidable (c.Clears entity) := inferInstanceAs (Decidable (_ ∨ _))

theorem clears_iff (noPass : c.isPass = false) :
    c.Clears entity ↔ c.trigger? = some (.drop entity) := by
  simp [Clears, noPass, drops_iff]

/-! ## Histories -/

variable (calls : List Call) (entity : EntityId)

/-- Of the calls since the last pass, the last one that queues or drops the entity. -/
def lastEvent? : Option Call :=
  ((calls.rtakeWhile (!·.isPass)).filter fun c => c.Queues entity ∨ c.Drops entity).getLast?

/-- The calls after the last one that dropped the entity or made a pass. -/
def sinceCleared : List Call := calls.rtakeWhile fun c => ¬ c.Clears entity

/-- The place of the first call that queues the entity after it was last dropped or a pass was made. -/
def entry : Nat :=
  calls.length - (sinceCleared calls entity).length +
    (sinceCleared calls entity).findIdx (·.Queues entity)

def Waits : Prop := ∃ c ∈ sinceCleared calls entity, c.Queues entity

variable {calls} {entity}

theorem not_clears_of_queues (queues : c.Queues entity) : ¬ c.Clears entity := by
  rw [Clears, drops_iff, queues_iff.mp queues]
  rintro (pass | drops)
  · cases queues <;> cases pass
  · cases drops

theorem sinceCleared_concat (calls : List Call) (c : Call) (entity : EntityId) :
    sinceCleared (calls ++ [c]) entity =
      if c.Clears entity then [] else sinceCleared calls entity ++ [c] := by
  rw [sinceCleared, List.rtakeWhile_concat]
  by_cases clears : c.Clears entity <;> simp [clears, sinceCleared]

theorem length_sinceCleared_le (calls : List Call) (entity : EntityId) :
    (sinceCleared calls entity).length ≤ calls.length :=
  (List.rtakeWhile_suffix _ _).length_le

theorem waits_concat_iff :
    Waits (calls ++ [c]) entity ↔
      c.Queues entity ∨ (Waits calls entity ∧ ¬ c.Clears entity) := by
  rw [Waits, sinceCleared_concat]
  split
  case isTrue clears =>
    have quiet : ¬ c.Queues entity := fun queues => not_clears_of_queues queues clears
    simp [quiet, clears]
  case isFalse kept => simp [kept, Waits, or_and_right, exists_or, or_comm]

theorem lastEvent?_concat (calls : List Call) (c : Call) (entity : EntityId) :
    lastEvent? (calls ++ [c]) entity =
      if c.isPass then none
      else if c.Queues entity ∨ c.Drops entity then some c
      else lastEvent? calls entity := by
  rw [lastEvent?, List.rtakeWhile_concat]
  cases c.isPass with
  | true => rfl
  | false =>
    by_cases event : c.Queues entity ∨ c.Drops entity <;> simp [event, lastEvent?]

theorem waits_iff_lastEvent? :
    Waits calls entity ↔ ∃ c ∈ lastEvent? calls entity, c.Queues entity := by
  induction calls using List.reverseRecOn with
  | nil => simp [Waits, sinceCleared, lastEvent?]
  | append_singleton calls c ih =>
    rw [waits_concat_iff, ih, lastEvent?_concat]
    by_cases clears : c.Clears entity
    · have quiet : ¬ c.Queues entity := fun queues => not_clears_of_queues queues clears
      by_cases pass : c.isPass
      · simp [pass, quiet, clears]
      · have drops : c.Drops entity := clears.resolve_left pass
        simp [pass, quiet, drops, clears]
    · obtain ⟨pass, keeps⟩ := not_or.mp clears
      by_cases queues : c.Queues entity <;> simp [pass, keeps, queues, clears]

theorem findIdx_lt_iff :
    (sinceCleared calls entity).findIdx (·.Queues entity) < (sinceCleared calls entity).length ↔
      Waits calls entity := by
  simp [List.findIdx_lt_length, Waits]

theorem entry_lt (waits : Waits calls entity) : entry calls entity < calls.length := by
  have found := findIdx_lt_iff.mpr waits
  have suffix := length_sinceCleared_le calls entity
  rw [entry]
  omega

theorem exists_getElem?_entry (waits : Waits calls entity) :
    ∃ c, calls[entry calls entity]? = some c ∧ c.Queues entity := by
  have found := findIdx_lt_iff.mpr waits
  obtain ⟨before, cut⟩ := List.rtakeWhile_suffix (fun c => decide ¬ Clears entity c) calls
  change before ++ sinceCleared calls entity = calls at cut
  -- the entry is counted from the start of the history, behind everything before the last clearing
  have place : entry calls entity =
      before.length + (sinceCleared calls entity).findIdx (·.Queues entity) := by
    have length := congrArg List.length cut
    rw [List.length_append] at length
    rw [entry]
    omega
  refine ⟨_, ?_, of_decide_eq_true (List.findIdx_getElem (w := found))⟩
  calc calls[entry calls entity]?
      = (before ++ sinceCleared calls entity)[before.length +
          (sinceCleared calls entity).findIdx (·.Queues entity)]? := by rw [cut, place]
    _ = (sinceCleared calls entity)[(sinceCleared calls entity).findIdx (·.Queues entity)]? := by
      rw [List.getElem?_append_right (Nat.le_add_right _ _), Nat.add_sub_cancel_left]
    _ = some _ := List.getElem?_eq_getElem found

theorem entry_concat_of_waits (waits : Waits calls entity) (kept : ¬ c.Clears entity) :
    entry (calls ++ [c]) entity = entry calls entity := by
  have suffix := length_sinceCleared_le calls entity
  rw [entry, entry, sinceCleared_concat, if_neg kept, List.findIdx_append,
    if_pos (findIdx_lt_iff.mpr waits), List.length_append, List.length_append, List.length_singleton]
  omega

theorem entry_concat_of_queues (idle : ¬ Waits calls entity) (queues : c.Queues entity) :
    entry (calls ++ [c]) entity = calls.length := by
  have here : [c].findIdx (·.Queues entity) = 0 := by simp [queues]
  have suffix := length_sinceCleared_le calls entity
  rw [entry, sinceCleared_concat, if_neg (not_clears_of_queues queues), List.findIdx_append,
    if_neg (mt findIdx_lt_iff.mp idle), here, List.length_append, List.length_append,
    List.length_singleton]
  omega

end Call

open Call (Waits entry)

/-! ## The queue after calls -/

variable {enforcer : Enforcer} {calls : List Call} {c : Call}

theorem toList_call_of_isPass (enforcer : Enforcer) {c : Call} (pass : c.isPass) :
    (enforcer.call c).pending.toList = [] := by
  cases c with
  | process view translator => exact enforcer.pending.toList_drain
  | act _ | changeAuthority _ _ | handle _ => cases pass

/-- The queue lists the entities that wait, in the order of their entries. -/
structure Lists (enforcer : Enforcer) (calls : List Call) : Prop where
  waits (entity : EntityId) : entity ∈ enforcer.pending.toList ↔ Waits calls entity
  ordered : enforcer.pending.toList.Pairwise fun e e' => entry calls e < entry calls e'

theorem Lists.ordered_concat (lists : enforcer.Lists calls) {kept : List EntityId}
    (fewer : kept.Sublist enforcer.pending.toList) (stay : ∀ entity ∈ kept, ¬ c.Clears entity) :
    kept.Pairwise fun e e' => entry (calls ++ [c]) e < entry (calls ++ [c]) e' := by
  refine (lists.ordered.sublist fewer).imp_of_mem fun {e e'} member member' less => ?_
  have waits := (lists.waits e).mp (fewer.subset member)
  have waits' := (lists.waits e').mp (fewer.subset member')
  rwa [Call.entry_concat_of_waits waits (stay e member),
    Call.entry_concat_of_waits waits' (stay e' member')]

theorem Lists.waits_concat_iff (lists : enforcer.Lists calls) (noPass : c.isPass = false)
    (entity : EntityId) :
    Waits (calls ++ [c]) entity ↔ c.trigger? = some (.queue entity) ∨
      (entity ∈ enforcer.pending.toList ∧ c.trigger? ≠ some (.drop entity)) := by
  rw [Call.waits_concat_iff, Call.queues_iff, Call.clears_iff noPass, lists.waits]

theorem lists_call_of_isPass (enforcer : Enforcer) (calls : List Call) (pass : c.isPass) :
    (enforcer.call c).Lists (calls ++ [c]) := by
  have none : (enforcer.call c).pending.toList = [] := toList_call_of_isPass enforcer pass
  refine ⟨fun entity => ?_, ?_⟩
  · have clears : c.Clears entity := .inl pass
    have quiet : ¬ c.Queues entity := fun queues => Call.not_clears_of_queues queues clears
    rw [none, Call.waits_concat_iff]
    simp [quiet, clears]
  · rw [none]
    exact .nil

theorem Lists.idle (lists : enforcer.Lists calls) (noPass : c.isPass = false)
    (silent : c.trigger? = none) : enforcer.Lists (calls ++ [c]) := by
  refine ⟨fun entity => ?_, lists.ordered_concat (.refl _) fun entity _ => ?_⟩
  · rw [lists.waits_concat_iff noPass, silent]
    simp
  · rw [Call.clears_iff noPass, silent]
    exact nofun

theorem Lists.queue (lists : enforcer.Lists calls) (noPass : c.isPass = false) {e : EntityId}
    (triggers : c.trigger? = some (.queue e)) :
    (enforcer.act (.queue e)).Lists (calls ++ [c]) := by
  have waits (entity : EntityId) :
      Waits (calls ++ [c]) entity ↔ e = entity ∨ entity ∈ enforcer.pending.toList := by
    rw [lists.waits_concat_iff noPass, triggers]
    simp
  have kept (entity : EntityId) : ¬ c.Clears entity := by
    rw [Call.clears_iff noPass, triggers]
    exact nofun
  have ordered := lists.ordered_concat (.refl _) fun entity _ => kept entity
  have list : (enforcer.act (.queue e)).pending.toList =
      if enforcer.pending.contains e then enforcer.pending.toList
      else enforcer.pending.toList ++ [e] := enforcer.pending.toList_push e
  by_cases queued : enforcer.pending.contains e
  · -- an entity that waits keeps its entry
    rw [if_pos queued] at list
    refine ⟨fun entity => ?_, by rwa [list]⟩
    rw [list, waits]
    constructor
    · exact .inr
    · rintro (rfl | member)
      · exact PendingQueue.mem_toList.mpr queued
      · exact member
  · rw [if_neg queued] at list
    refine ⟨fun entity => ?_, ?_⟩
    · rw [list, waits, List.mem_append, List.mem_singleton, or_comm, eq_comm]
    · -- the others entered at earlier calls
      have idle : ¬ Waits calls e := by rwa [← lists.waits, PendingQueue.mem_toList]
      have queues : c.Queues e := Call.queues_iff.mpr triggers
      rw [list]
      refine List.pairwise_append.mpr ⟨ordered, List.pairwise_singleton _ _, ?_⟩
      intro e' member last isLast
      obtain rfl := List.mem_singleton.mp isLast
      have waits' := (lists.waits e').mp member
      rw [Call.entry_concat_of_waits waits' (kept e'), Call.entry_concat_of_queues idle queues]
      exact Call.entry_lt waits'

theorem Lists.drop (lists : enforcer.Lists calls) (noPass : c.isPass = false) {e : EntityId}
    (triggers : c.trigger? = some (.drop e)) :
    (enforcer.act (.drop e)).Lists (calls ++ [c]) := by
  have list : (enforcer.act (.drop e)).pending.toList =
    enforcer.pending.toList.filter (· ≠ e) := enforcer.pending.toList_remove e
  have apart (entity : EntityId) : some (Trigger.drop e) ≠ some (.drop entity) ↔ entity ≠ e := by
    rw [ne_eq, Option.some_inj, Trigger.drop.injEq, eq_comm]
  refine ⟨fun entity => ?_, ?_⟩
  · rw [lists.waits_concat_iff noPass, triggers, list, List.mem_filter, apart, decide_eq_true_iff]
    exact (or_iff_right nofun).symm
  · rw [list]
    refine lists.ordered_concat List.filter_sublist fun entity member => ?_
    rw [Call.clears_iff noPass, triggers]
    exact (apart entity).mpr (of_decide_eq_true (List.mem_filter.mp member).2)

theorem Lists.call (lists : enforcer.Lists calls) (c : Call) :
    (enforcer.call c).Lists (calls ++ [c]) := by
  cases pass : c.isPass with
  | true => exact lists_call_of_isPass enforcer calls pass
  | false =>
    rw [enforcer.call_eq pass]
    cases triggers : c.trigger? with
    | none => exact lists.idle pass triggers
    | some trigger =>
      cases trigger with
      | queue e => exact lists.queue pass triggers
      | drop e => exact lists.drop pass triggers

theorem lists_callAll (worker : WorkerName) (calls : List Call) :
    ((start worker).callAll calls).Lists calls := by
  induction calls using List.reverseRecOn with
  | nil =>
    have empty : (start worker).pending.toList = [] := PendingQueue.toList_empty
    refine ⟨fun entity => ?_, by rw [callAll, List.foldl_nil, empty]; exact .nil⟩
    rw [callAll, List.foldl_nil, empty]
    simp [Waits, Call.sinceCleared]
  | append_singleton calls c ih =>
    rw [callAll, List.foldl_concat]
    exact ih.call c

/-- No call changes the order of the entities that are queued before and after it. -/
theorem Lists.filter_call (lists : enforcer.Lists calls) (c : Call) :
    (enforcer.call c).pending.toList.filter (· ∈ enforcer.pending.toList) =
      enforcer.pending.toList.filter (· ∈ (enforcer.call c).pending.toList) := by
  have next := lists.call c
  have stay : ∀ entity ∈ enforcer.pending.toList.filter (· ∈ (enforcer.call c).pending.toList),
      ¬ c.Clears entity := by
    intro entity member
    have queued := of_decide_eq_true (List.mem_filter.mp member).2
    rcases Call.waits_concat_iff.mp ((next.waits entity).mp queued) with queues | ⟨_, kept⟩
    · exact Call.not_clears_of_queues queues
    · exact kept
  -- both lists have the same members in the order of the same entries
  have after := next.ordered.sublist (List.filter_sublist (p := (· ∈ enforcer.pending.toList)))
  have before := lists.ordered_concat List.filter_sublist stay
  have irreflexive : Std.Irrefl fun e e' => entry (calls ++ [c]) e < entry (calls ++ [c]) e' :=
    ⟨fun _ => Nat.lt_irrefl _⟩
  refine after.eq_of_mem_iff before fun entity => ?_
  simp [and_comm]

/-- Whatever a new enforcer was called for: an entity is queued exactly if the last call since the last
pass that queues or drops it queues it; the next pass visits the queued entities in the order of the
calls that first queued each after it was last dropped or a pass was made; and a call that neither
queues nor drops an entity, and is no pass, leaves it where it is. -/
theorem queued_by_last_event (worker : WorkerName) (calls : List Call) :
    let now := (start worker).callAll calls
    (∀ entity, now.pending.contains entity ↔
      ∃ c ∈ Call.lastEvent? calls entity, c.Queues entity) ∧
    (∀ view translator, let visited := (now.decisions view translator).map (·.entity)
      (∀ entity, entity ∈ visited ↔ now.pending.contains entity) ∧
      (∀ entity ∈ visited, ∃ c, calls[entry calls entity]? = some c ∧ c.Queues entity) ∧
      visited.Pairwise fun e e' => entry calls e < entry calls e') ∧
    ∀ c, let next := now.call c
      (∀ entity, c.isPass = false → ¬ c.Queues entity → ¬ c.Drops entity →
        next.pending.contains entity = now.pending.contains entity) ∧
      next.pending.toList.filter (· ∈ now.pending.toList) =
        now.pending.toList.filter (· ∈ next.pending.toList) := by
  intro now
  have lists : now.Lists calls := lists_callAll worker calls
  have waits (entity : EntityId) : now.pending.contains entity ↔ Waits calls entity := by
    rw [← PendingQueue.mem_toList, lists.waits]
  refine ⟨fun entity => (waits entity).trans Call.waits_iff_lastEvent?, ?_, ?_⟩
  · intro view translator visited
    have same : visited = now.pending.toList := by
      simp [visited, decisions, List.map_map, Function.comp_def]
    refine ⟨fun entity => ?_, fun entity member => ?_, ?_⟩
    · rw [same, PendingQueue.mem_toList]
    · rw [same, lists.waits] at member
      exact Call.exists_getElem?_entry member
    · rw [same]
      exact lists.ordered
  · intro c next
    refine ⟨fun entity noPass quiet keeps => ?_, lists.filter_call c⟩
    rw [Bool.eq_iff_iff, ← PendingQueue.mem_toList, (lists.call c).waits, Call.waits_concat_iff,
      waits]
    simp [quiet, Call.Clears, noPass, keeps]

/-- The first entity loses its place when it vanishes and gets the last one when it is updated. -/
theorem queued_by_last_event_requeued :
    let calls : List Call := [.act (.queue ⟨1⟩), .act (.queue ⟨2⟩), .handle (.removeEntity ⟨1⟩),
      .handle (.updateComponent ⟨1⟩ (.other 9983))]
    let now := (start ⟨"ServerWorker1"⟩).callAll calls
    let visited := (now.decisions .empty (.start ⟨"ServerWorker1"⟩ none)).map (·.entity)
    let c : Call := .handle (.changeAuthority ⟨2⟩ .accessList .notAuthoritative)
    visited = [⟨2⟩, ⟨1⟩] ∧ (∃ c, calls[entry calls ⟨1⟩]? = some c ∧ c.Queues ⟨1⟩) ∧
      c.isPass = false ∧ ¬ c.Queues ⟨1⟩ ∧ ¬ c.Drops ⟨1⟩ ∧
      (now.call c).pending.contains ⟨1⟩ = now.pending.contains ⟨1⟩ := by
  intro calls now visited c
  have listed : visited = [⟨2⟩, ⟨1⟩] := by decide +kernel
  have member : (⟨1⟩ : EntityId) ∈ visited := by simp [listed]
  have others : c.isPass = false ∧ ¬ c.Queues ⟨1⟩ ∧ ¬ c.Drops ⟨1⟩ := by decide
  obtain ⟨noPass, quiet, keeps⟩ := others
  obtain ⟨_, order, frame⟩ := queued_by_last_event ⟨"ServerWorker1"⟩ calls
  exact ⟨listed, (order _ _).2.1 ⟨1⟩ member, noPass, quiet, keeps, (frame c).1 ⟨1⟩ noPass quiet keeps⟩

end Handover.Enforcer
