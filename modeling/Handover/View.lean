import Handover.WorkerOp
import Handover.Log.Record

/-! # Component views

A view is what one worker sees of the replicated entities: for every visible entity a table of cells,
one for each visible component, holding its value and the worker's authority over it.  Only an
`addComponent` makes a component visible; an update or a change of authority for a component that is
not visible is dropped, since the replication layer sends these only after the component was added.

The cells do not influence each other: for each change a lemma says which cells it touches and what
becomes of them.
-/

namespace Handover

/-- A visible component: its value and the worker's authority over it. -/
structure Cell where
  data : ComponentData
  authority : Authority
deriving DecidableEq

structure View where
  /-- The visible entities and their visible components.  An entity without any component may still
  be visible. -/
  entities : Std.ExtTreeMap EntityId (Std.ExtTreeMap ComponentId Cell)
deriving DecidableEq

namespace View

def empty : View := ⟨∅⟩

instance : Inhabited View := ⟨empty⟩

/-! ## Queries -/

def hasEntity (view : View) (entity : EntityId) : Bool := view.entities.contains entity

def entityCount (view : View) : Nat := view.entities.size

/-- The visible entities in ascending order. -/
def entityIds (view : View) : List EntityId := view.entities.keys

def cell? (view : View) (entity : EntityId) (component : ComponentId) : Option Cell :=
  view.entities[entity]?.bind (·[component]?)

def component? (view : View) (entity : EntityId) (component : ComponentId) : Option ComponentData :=
  (view.cell? entity component).map (·.data)

/-- The worker has no authority over a component it does not see. -/
def authority (view : View) (entity : EntityId) (component : ComponentId) : Authority :=
  ((view.cell? entity component).map (·.authority)).getD .notAuthoritative

def mayWrite (view : View) (entity : EntityId) (component : ComponentId) : Bool :=
  (view.authority entity component).permitsWrites

/-- Whether the worker may change the entity's access list, and so hand the entity over. -/
def mayHandOver (view : View) (entity : EntityId) : Bool := view.mayWrite entity .accessList

/-- The virtual worker meant to own the entity.  A bare number in the place of an intent says
nothing, and likewise for presence and access list. -/
def intent? (view : View) (entity : EntityId) : Option VirtualWorkerId :=
  (view.component? entity .intent).bind (·.intent?)

def presence? (view : View) (entity : EntityId) : Option (List ComponentId) :=
  (view.component? entity .presence).bind (·.presence?)

def accessList? (view : View) (entity : EntityId) : Option AccessList :=
  (view.component? entity .accessList).bind (·.accessList?)

/-! ## Changes -/

/-- Changes the cell of one component; the entity becomes visible if it was not. -/
def alterCell (view : View) (entity : EntityId) (component : ComponentId)
    (f : Option Cell → Option Cell) : View :=
  ⟨view.entities.insert entity ((view.entities[entity]?.getD ∅).alter component f)⟩

/-- Changes the cell of one component where it is visible. -/
def modifyCell (view : View) (entity : EntityId) (component : ComponentId) (f : Cell → Cell) :
    View :=
  ⟨view.entities.modify entity (·.modify component f)⟩

/-- Makes a component visible, or replaces it, together with the authority over it. -/
def addComponent (view : View) (entity : EntityId) (data : ComponentData) (authority : Authority) :
    View :=
  view.alterCell entity data.component fun _ => some ⟨data, authority⟩

def setAuthority (view : View) (entity : EntityId) (component : ComponentId)
    (authority : Authority) : View :=
  view.modifyCell entity component ({ · with authority := authority })

/-- Makes a component invisible; its entity stays visible. -/
def removeComponent (view : View) (entity : EntityId) (component : ComponentId) : View :=
  ⟨view.entities.modify entity (·.erase component)⟩

def removeEntity (view : View) (entity : EntityId) : View := ⟨view.entities.erase entity⟩

/-- The view after a message.  A component that is added again keeps its authority. -/
def apply (view : View) : WorkerOp → View
  | .addComponent entity data =>
    view.alterCell entity data.component fun cell =>
      some ⟨data, (cell.map (·.authority)).getD .notAuthoritative⟩
  | .updateComponent entity data =>
    view.modifyCell entity data.component ({ · with data := data })
  | .removeComponent entity component => view.removeComponent entity component
  | .changeAuthority entity component authority => view.setAuthority entity component authority
  | .removeEntity entity => view.removeEntity entity

/-! ## Cells after a change

Each change touches the cells of one entity, and all but the removal of the entity only one of them. -/

@[simp] theorem cell?_empty (entity : EntityId) (component : ComponentId) :
    empty.cell? entity component = none := by simp [empty, cell?]

theorem cell?_alterCell (view : View) (e entity : EntityId) (c component : ComponentId)
    (f : Option Cell → Option Cell) :
    (view.alterCell e c f).cell? entity component =
      if e = entity ∧ c = component then f (view.cell? entity component)
      else view.cell? entity component := by
  simp only [alterCell, cell?, Std.ExtTreeMap.getElem?_insert, Std.LawfulEqCmp.compare_eq_iff_eq]
  by_cases he : e = entity
  · subst he
    cases view.entities[e]? <;> by_cases hc : c = component <;>
      simp [Std.ExtTreeMap.getElem?_alter, hc]
  · simp [he]

theorem cell?_modifyCell (view : View) (e entity : EntityId) (c component : ComponentId)
    (f : Cell → Cell) :
    (view.modifyCell e c f).cell? entity component =
      if e = entity ∧ c = component then (view.cell? entity component).map f
      else view.cell? entity component := by
  simp only [modifyCell, cell?, Std.ExtTreeMap.getElem?_modify, Std.LawfulEqCmp.compare_eq_iff_eq]
  by_cases he : e = entity
  · subst he
    cases view.entities[e]? <;> by_cases hc : c = component <;>
      simp [Std.ExtTreeMap.getElem?_modify, hc]
  · simp [he]

theorem cell?_removeComponent (view : View) (e entity : EntityId) (c component : ComponentId) :
    (view.removeComponent e c).cell? entity component =
      if e = entity ∧ c = component then none else view.cell? entity component := by
  simp only [removeComponent, cell?, Std.ExtTreeMap.getElem?_modify,
    Std.LawfulEqCmp.compare_eq_iff_eq]
  by_cases he : e = entity
  · subst he
    cases view.entities[e]? <;> by_cases hc : c = component <;>
      simp [Std.ExtTreeMap.getElem?_erase, hc]
  · simp [he]

theorem cell?_removeEntity (view : View) (e entity : EntityId) (component : ComponentId) :
    (view.removeEntity e).cell? entity component =
      if e = entity then none else view.cell? entity component := by
  by_cases he : e = entity <;> simp [removeEntity, cell?, Std.ExtTreeMap.getElem?_erase, he]

/-! ## Reports -/

inductive Event where
  | droppedUpdate (entity : EntityId) (component : ComponentId)
  | droppedAuthority (entity : EntityId) (component : ComponentId)
deriving DecidableEq

/-- What is reported when the authority over a component is to change. -/
def setAuthorityEvents (view : View) (entity : EntityId) (component : ComponentId) : List Event :=
  if (view.cell? entity component).isSome then [] else [.droppedAuthority entity component]

/-- What the view reports about a message: whether it is dropped. -/
def events (view : View) : WorkerOp → List Event
  | .updateComponent entity data =>
    if (view.cell? entity data.component).isSome then []
    else [.droppedUpdate entity data.component]
  | .changeAuthority entity component _ => view.setAuthorityEvents entity component
  | .addComponent .. | .removeComponent .. | .removeEntity .. => []

def Event.record : Event → Log.Record
  | droppedUpdate entity component =>
    ⟨.trace, target, "Dropping update for unknown component", fields entity component⟩
  | droppedAuthority entity component =>
    ⟨.trace, target, "Dropping authority change for unknown component", fields entity component⟩
where
  target : String := "latch_authority::view"
  fields (entity : EntityId) (component : ComponentId) : List (String × String) :=
    [("entity", toString entity), ("component", toString component.toNat)]

end View

end Handover
