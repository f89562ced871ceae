import Handover.Cluster.Basic

/-! # Views that mirror the true state

A view *mirrors* the entities of a cluster for a worker if it shows these entities and no others, each
with exactly its intent, access list and presence, and with authority over the access list exactly if
the worker is the owner.

A snapshot makes the empty view a mirror.  Every message concerns one entity only, so from then on a
mirror is kept by any change of one entity whose messages turn what is shown of this entity into what is
to be shown; a new intent and a handover are such changes.
-/

namespace Handover

/-- The authority over the access list of an entity that a worker is meant to have. -/
def EntityState.authorityOf (state : EntityState) (worker : WorkerName) : Authority :=
  if state.owner = worker then .authoritative else .notAuthoritative

/-- The visible cells of an entity for a worker with the given authority over its access list. -/
def EntityState.cell? (state : EntityState) (authority : Authority) (component : ComponentId) :
    Option Cell :=
  if component = .intent then some ⟨.intent state.intent, .notAuthoritative⟩
  else if component = .accessList then some ⟨.accessList state.acl, authority⟩
  else if component = .presence then some ⟨.presence state.components, .notAuthoritative⟩
  else none

namespace View

/-- The view after a list of messages, first to last. -/
def replay (view : View) (ops : List WorkerOp) : View := ops.foldl apply view

@[simp] theorem replay_nil (view : View) : view.replay [] = view := rfl

@[simp] theorem replay_cons (view : View) (op : WorkerOp) (ops : List WorkerOp) :
    view.replay (op :: ops) = (view.apply op).replay ops := rfl

@[simp] theorem replay_append (view : View) (ops ops' : List WorkerOp) :
    view.replay (ops ++ ops') = (view.replay ops).replay ops' := by
  simp [replay, List.foldl_append]

/-! ## What a message leaves alone -/

theorem hasEntity_alterCell (view : View) (e entity : EntityId) (c : ComponentId)
    (f : Option Cell → Option Cell) :
    (view.alterCell e c f).hasEntity entity = (decide (e = entity) || view.hasEntity entity) := by
  simp [hasEntity, alterCell, Std.ExtTreeMap.contains_insert, Bool.beq_eq_decide_eq]

@[simp] theorem hasEntity_modifyCell (view : View) (e entity : EntityId) (c : ComponentId)
    (f : Cell → Cell) : (view.modifyCell e c f).hasEntity entity = view.hasEntity entity := by
  simp [hasEntity, modifyCell, Std.ExtTreeMap.contains_modify]

@[simp] theorem hasEntity_removeComponent (view : View) (e entity : EntityId) (c : ComponentId) :
    (view.removeComponent e c).hasEntity entity = view.hasEntity entity := by
  simp [hasEntity, removeComponent, Std.ExtTreeMap.contains_modify]

theorem cell?_apply_of_ne (view : View) {op : WorkerOp} {entity : EntityId}
    (other : op.entity ≠ entity) (component : ComponentId) :
    (view.apply op).cell? entity component = view.cell? entity component := by
  cases op with
  | addComponent e data =>
    exact (view.cell?_alterCell e entity _ _ _).trans (if_neg fun h => other h.1)
  | updateComponent e data =>
    exact (view.cell?_modifyCell e entity _ _ _).trans (if_neg fun h => other h.1)
  | removeComponent e c =>
    exact (view.cell?_removeComponent e entity _ _).trans (if_neg fun h => other h.1)
  | changeAuthority e c authority =>
    exact (view.cell?_modifyCell e entity _ _ _).trans (if_neg fun h => other h.1)
  | removeEntity e => exact (view.cell?_removeEntity e entity _).trans (if_neg other)

theorem hasEntity_apply_of_ne (view : View) {op : WorkerOp} {entity : EntityId}
    (other : op.entity ≠ entity) : (view.apply op).hasEntity entity = view.hasEntity entity := by
  cases op with
  | addComponent e data =>
    have apart : e ≠ entity := other
    rw [apply, hasEntity_alterCell, decide_eq_false apart, Bool.false_or]
  | updateComponent e data => exact view.hasEntity_modifyCell e entity data.component _
  | removeComponent e c => exact view.hasEntity_removeComponent e entity c
  | changeAuthority e c authority => exact view.hasEntity_modifyCell e entity c _
  | removeEntity e =>
    have apart : e ≠ entity := other
    simp [apply, removeEntity, hasEntity, Std.ExtTreeMap.contains_erase, apart]

theorem cell?_replay_of_ne (view : View) {ops : List WorkerOp} {entity : EntityId}
    (others : ∀ op ∈ ops, op.entity ≠ entity) (component : ComponentId) :
    (view.replay ops).cell? entity component = view.cell? entity component := by
  induction ops generalizing view with
  | nil => rfl
  | cons op ops ih =>
    rw [List.forall_mem_cons] at others
    rw [replay_cons, ih _ others.2, view.cell?_apply_of_ne others.1]

theorem hasEntity_replay_of_ne (view : View) {ops : List WorkerOp} {entity : EntityId}
    (others : ∀ op ∈ ops, op.entity ≠ entity) :
    (view.replay ops).hasEntity entity = view.hasEntity entity := by
  induction ops generalizing view with
  | nil => rfl
  | cons op ops ih =>
    rw [List.forall_mem_cons] at others
    rw [replay_cons, ih _ others.2, view.hasEntity_apply_of_ne others.1]

theorem cell?_of_hidden {view : View} {entity : EntityId} (hidden : view.hasEntity entity = false)
    (component : ComponentId) : view.cell? entity component = none := by
  rw [hasEntity, Std.ExtTreeMap.contains_eq_isSome_getElem?, Option.isSome_eq_false_iff,
    Option.isNone_iff_eq_none] at hidden
  simp [cell?, hidden]

/-! ## What is shown of one entity -/

/-- The view shows an entity in a state, with some authority over its access list. -/
structure Shows (view : View) (entity : EntityId) (state : EntityState) (authority : Authority) :
    Prop where
  visible : view.hasEntity entity
  cells : ∀ component, view.cell? entity component = state.cell? authority component

namespace Shows

variable {view : View} {entity : EntityId} {state : EntityState} {authority : Authority}

theorem intent?_eq (shows : view.Shows entity state authority) :
    view.intent? entity = some state.intent := by
  simp [intent?, component?, shows.cells, EntityState.cell?, ComponentData.intent?]

theorem accessList?_eq (shows : view.Shows entity state authority) :
    view.accessList? entity = some state.acl := by
  have apart : ComponentId.accessList ≠ ComponentId.intent := by decide
  simp [accessList?, component?, shows.cells, EntityState.cell?, ComponentData.accessList?, apart]

theorem presence?_eq (shows : view.Shows entity state authority) :
    view.presence? entity = some state.components := by
  have apart : ComponentId.presence ≠ ComponentId.intent := by decide
  have apart' : ComponentId.presence ≠ ComponentId.accessList := by decide
  simp [presence?, component?, shows.cells, EntityState.cell?, ComponentData.presence?, apart,
    apart']

theorem authority_eq (shows : view.Shows entity state authority) :
    view.authority entity .accessList = authority := by
  have apart : ComponentId.accessList ≠ ComponentId.intent := by decide
  simp [View.authority, shows.cells, EntityState.cell?, apart]

theorem replay_of_ne (shows : view.Shows entity state authority) {ops : List WorkerOp}
    (others : ∀ op ∈ ops, op.entity ≠ entity) : (view.replay ops).Shows entity state authority where
  visible := by rw [view.hasEntity_replay_of_ne others, shows.visible]
  cells component := by rw [view.cell?_replay_of_ne others, shows.cells]

theorem setOwner (shows : view.Shows entity state authority) (owner : WorkerName) :
    view.Shows entity { state with owner } authority := ⟨shows.visible, shows.cells⟩

theorem setIntent (shows : view.Shows entity state authority) (intent : VirtualWorkerId) :
    (view.apply (.updateComponent entity (.intent intent))).Shows entity { state with intent }
      authority where
  visible := by simpa [apply] using shows.visible
  cells component := by
    simp only [apply, cell?_modifyCell, shows.cells, ComponentData.component, true_and]
    by_cases touched : ComponentId.intent = component
    · subst touched
      simp [EntityState.cell?]
    · simp [EntityState.cell?, touched, Ne.symm touched]

theorem setAccessList (shows : view.Shows entity state authority) (acl : AccessList) :
    (view.apply (.updateComponent entity (.accessList acl))).Shows entity { state with acl }
      authority where
  visible := by simpa [apply] using shows.visible
  cells component := by
    have apart : ComponentId.accessList ≠ ComponentId.intent := by decide
    simp only [apply, cell?_modifyCell, shows.cells, ComponentData.component, true_and]
    by_cases touched : ComponentId.accessList = component
    · subst touched
      simp [EntityState.cell?, apart]
    · simp [EntityState.cell?, touched, Ne.symm touched]

theorem changeAuthority (shows : view.Shows entity state authority) (authority' : Authority) :
    (view.apply (.changeAuthority entity .accessList authority')).Shows entity state
      authority' where
  visible := by simpa [apply, setAuthority] using shows.visible
  cells component := by
    have apart : ComponentId.accessList ≠ ComponentId.intent := by decide
    simp only [apply, setAuthority, cell?_modifyCell, shows.cells, true_and]
    by_cases touched : ComponentId.accessList = component
    · subst touched
      simp [EntityState.cell?, apart]
    · simp [EntityState.cell?, touched, Ne.symm touched]

end Shows

/-- The snapshot of an entity shows it, to a view that did not have it. -/
theorem shows_snapshot {view : View} {entity : EntityId} (hidden : view.hasEntity entity = false)
    (state : EntityState) (worker : WorkerName) :
    (view.replay (state.snapshot entity worker)).Shows entity state (state.authorityOf worker) := by
  have added : (view.replay [.addComponent entity (.intent state.intent),
      .addComponent entity (.accessList state.acl),
      .addComponent entity (.presence state.components)]).Shows entity state .notAuthoritative := by
    constructor
    · simp [apply, hasEntity_alterCell]
    · intro component
      -- the three components are different, so none of the additions hides another
      simp only [replay_cons, replay_nil, apply, cell?_alterCell, cell?_of_hidden hidden,
        ComponentData.component, true_and, EntityState.cell?]
      grind [ComponentId.intent, ComponentId.accessList, ComponentId.presence]
  rw [EntityState.snapshot, replay_append, EntityState.authorityOf]
  -- the owner gets one message more than the others
  split
  · exact added.changeAuthority .authoritative
  · exact added

/-! ## Mirrors -/

/-- The view shows the entities, each as it is, and no others. -/
structure Mirrors (view : View) (entities : Std.ExtTreeMap EntityId EntityState)
    (worker : WorkerName) : Prop where
  hidden : ∀ {entity}, entities[entity]? = none → view.hasEntity entity = false
  shown : ∀ {entity state}, entities[entity]? = some state →
    view.Shows entity state (state.authorityOf worker)

namespace Mirrors

variable {view : View} {entities : Std.ExtTreeMap EntityId EntityState} {worker : WorkerName}

theorem hasEntity_eq (mirrors : view.Mirrors entities worker) (entity : EntityId) :
    view.hasEntity entity = entities[entity]?.isSome := by
  cases present : entities[entity]? with
  | none => exact mirrors.hidden present
  | some state => exact (mirrors.shown present).visible

/-- The ascending list of what is visible is fixed by what is visible. -/
theorem entityIds_eq (mirrors : view.Mirrors entities worker) : view.entityIds = entities.keys := by
  have same (entity : EntityId) : entity ∈ view.entityIds ↔ entity ∈ entities.keys := by
    have visible := mirrors.hasEntity_eq entity
    rw [hasEntity, ← Std.ExtTreeMap.contains_eq_isSome_getElem?] at visible
    rw [entityIds, Std.ExtTreeMap.mem_keys, Std.ExtTreeMap.mem_keys,
      ← Std.ExtTreeMap.contains_iff_mem, ← Std.ExtTreeMap.contains_iff_mem, visible]
  -- ascending lists with the same members are equal
  have perm := (List.perm_ext_iff_of_nodup view.entities.nodup_keys entities.nodup_keys).mpr same
  refine perm.eq_of_pairwise (fun e e' _ _ less more => ?_) view.entities.ordered_keys
    entities.ordered_keys
  exact absurd more (Std.OrientedCmp.not_lt_of_lt less)

theorem mayHandOver_eq (mirrors : view.Mirrors entities worker) {entity : EntityId}
    {state : EntityState} (present : entities[entity]? = some state) :
    view.mayHandOver entity = decide (state.owner = worker) := by
  rw [mayHandOver, mayWrite, (mirrors.shown present).authority_eq, EntityState.authorityOf]
  by_cases owned : state.owner = worker <;> simp [owned, Authority.permitsWrites]

/-- A mirror stays one if one entity changes and the messages about it show the change. -/
theorem insert (mirrors : view.Mirrors entities worker) {ops : List WorkerOp} {entity : EntityId}
    {state : EntityState} (about : ∀ op ∈ ops, op.entity = entity)
    (shows : (view.replay ops).Shows entity state (state.authorityOf worker)) :
    (view.replay ops).Mirrors (entities.insert entity state) worker := by
  have others {e : EntityId} (apart : entity ≠ e) : ∀ op ∈ ops, op.entity ≠ e :=
    fun op member same => apart ((about op member).symm.trans same)
  constructor
  · intro e absent
    rw [Std.ExtTreeMap.getElem?_insert] at absent
    by_cases same : entity = e
    · simp [same] at absent
    -- messages about one entity show nothing of another
    · rw [view.hasEntity_replay_of_ne (others same)]
      exact mirrors.hidden (by simpa [same] using absent)
  · intro e s present
    rw [Std.ExtTreeMap.getElem?_insert] at present
    by_cases same : entity = e
    · subst same
      obtain rfl : state = s := by simpa using present
      exact shows
    · exact (mirrors.shown (by simpa [same] using present)).replay_of_ne (others same)

theorem setIntent (mirrors : view.Mirrors entities worker) {entity : EntityId}
    {state : EntityState} (present : entities[entity]? = some state) (intent : VirtualWorkerId) :
    (view.apply (.updateComponent entity (.intent intent))).Mirrors
      (entities.insert entity { state with intent }) worker := by
  have about : ∀ op ∈ [WorkerOp.updateComponent entity (.intent intent)], op.entity = entity := by
    simp [WorkerOp.entity]
  exact mirrors.insert about ((mirrors.shown present).setIntent intent)

end Mirrors

/-! ## Handovers -/

/-- What a worker is sent when an entity goes from one owner to another: the new access list, and what
the handover means for its own authority. -/
def handoverMessages (entity : EntityId) (acl : AccessList) (previous next worker : WorkerName) :
    List WorkerOp :=
  .updateComponent entity (.accessList acl) ::
    ((if worker = previous then [.changeAuthority entity .accessList .notAuthoritative] else []) ++
      if worker = next then [.changeAuthority entity .accessList .authoritative] else [])

theorem entity_of_mem_handoverMessages {entity : EntityId} {acl : AccessList}
    {previous next worker : WorkerName} {op : WorkerOp}
    (member : op ∈ handoverMessages entity acl previous next worker) : op.entity = entity := by
  simp only [handoverMessages, List.mem_cons, List.mem_append] at member
  rcases member with rfl | loss | gain
  · rfl
  · split at loss
    · rw [List.mem_singleton.mp loss, WorkerOp.entity]
    · cases loss
  · split at gain
    · rw [List.mem_singleton.mp gain, WorkerOp.entity]
    · cases gain

theorem Mirrors.handOver {view : View} {entities : Std.ExtTreeMap EntityId EntityState}
    {worker : WorkerName} (mirrors : view.Mirrors entities worker) {entity : EntityId}
    {state : EntityState} (present : entities[entity]? = some state) (acl : AccessList)
    {next : WorkerName} (moved : state.owner ≠ next) :
    (view.replay (handoverMessages entity acl state.owner next worker)).Mirrors
      (entities.insert entity { state with owner := next, acl }) worker := by
  have listed := ((mirrors.shown present).setAccessList acl).setOwner next
  refine mirrors.insert (fun op => entity_of_mem_handoverMessages) ?_
  rw [handoverMessages, replay_cons]
  -- of the two authority messages a worker gets at most one, as the two owners differ
  by_cases loser : worker = state.owner
  · have stays : worker ≠ next := loser ▸ moved
    rw [if_pos loser, if_neg stays, EntityState.authorityOf, if_neg (Ne.symm stays)]
    exact listed.changeAuthority .notAuthoritative
  · by_cases winner : worker = next
    · rw [if_neg loser, if_pos winner, EntityState.authorityOf, if_pos winner.symm]
      exact listed.changeAuthority .authoritative
    · rw [if_neg loser, if_neg winner, EntityState.authorityOf, if_neg (Ne.symm winner)]
      rw [EntityState.authorityOf, if_neg (Ne.symm loser)] at listed
      exact listed

/-! ## Snapshots -/

theorem entity_of_mem_snapshot {entity : EntityId} {state : EntityState} {worker : WorkerName}
    {op : WorkerOp} (member : op ∈ state.snapshot entity worker) : op.entity = entity := by
  simp only [EntityState.snapshot, List.mem_append, List.mem_cons] at member
  rcases member with (rfl | rfl | rfl | h) | h
  · rfl
  · rfl
  · rfl
  · cases h
  · split at h
    · rw [List.mem_singleton.mp h, WorkerOp.entity]
    · cases h

/-- The snapshots of a list of different entities show each of them, to a view that had none. -/
theorem shows_snapshots {rows : List (EntityId × EntityState)} (worker : WorkerName)
    (distinct : (rows.map (·.1)).Nodup) {view : View}
    (hidden : ∀ row ∈ rows, view.hasEntity row.1 = false) {row : EntityId × EntityState}
    (member : row ∈ rows) :
    (view.replay (rows.flatMap fun (entity, state) => state.snapshot entity worker)).Shows row.1
      row.2 (row.2.authorityOf worker) := by
  induction rows generalizing view with
  | nil => cases member
  | cons first rows ih =>
    obtain ⟨fresh, distinct⟩ := List.nodup_cons.mp (List.map_cons ▸ distinct)
    have apart {r : EntityId × EntityState} (h : r ∈ rows) : first.1 ≠ r.1 :=
      fun same => fresh (same ▸ List.mem_map_of_mem h)
    rw [List.flatMap_cons, replay_append]
    cases List.mem_cons.mp member with
    | inl here =>
      -- what the first snapshot shows, the later ones leave alone
      subst here
      refine (shows_snapshot (hidden row List.mem_cons_self) row.2 worker).replay_of_ne ?_
      intro op sent
      obtain ⟨r, inRows, sent⟩ := List.mem_flatMap.mp sent
      exact fun same => apart inRows (same.symm.trans (entity_of_mem_snapshot sent))
    | inr later =>
      -- the first snapshot has not shown the entities of the later ones yet
      refine ih distinct (fun r inRows => ?_) later
      rw [view.hasEntity_replay_of_ne]
      · exact hidden r (List.mem_cons_of_mem _ inRows)
      · exact fun op sent same => apart inRows ((entity_of_mem_snapshot sent).symm.trans same)

/-- A worker that starts with the snapshot of all entities comes to see them as they are. -/
theorem mirrors_snapshot (entities : Std.ExtTreeMap EntityId EntityState) (worker : WorkerName) :
    (empty.replay (Cluster.snapshot entities worker)).Mirrors entities worker := by
  have blank (entity : EntityId) : empty.hasEntity entity = false := by simp [empty, hasEntity]
  constructor
  · intro entity absent
    rw [hasEntity_replay_of_ne]
    · exact blank entity
    · intro op sent same
      obtain ⟨row, inRows, sent⟩ := List.mem_flatMap.mp sent
      rw [← same, entity_of_mem_snapshot sent,
        Std.ExtTreeMap.mem_toList_iff_getElem?_eq_some.mp inRows] at absent
      cases absent
  · intro entity state present
    have distinct : (entities.toList.map (·.1)).Nodup := by
      rw [Std.ExtTreeMap.map_fst_toList_eq_keys]
      exact entities.nodup_keys
    exact shows_snapshots worker distinct (fun row _ => blank row.1)
      (Std.ExtTreeMap.mem_toList_iff_getElem?_eq_some.mpr present)

end View

end Handover
