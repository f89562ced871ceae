import Handover.Proofs.Mirror

/-! # Cells kept in two tables

A view keeps the value of a component and the authority over it side by side in one cell.  The same can
be kept of an entity in two tables, the values in one and the authorities in the other, and then every
kind of change has a rule of its own for either table: one may be written where the other is kept, and
what one table does not know may be refused by both.

* `RecordStore` keeps two tables for every entity, and `RecordStore.ofView` splits the cells of a view
  into them.  A change of the view is that change of the store (`RecordStore.change_ofView`); as a store
  that comes from a view has both halves of a cell or none, no invariant has to be carried along.
* `Cell.after` is a single cell that hears of the changes alone.  What the store and the view answer
  about a component is what such a cell comes to (`cells_of_changes`).
-/

namespace Handover

/-! ## Changes -/

inductive View.Change where
  /-- A component becomes visible, or is replaced, together with the authority over it. -/
  | add (entity : EntityId) (data : ComponentData) (authority : Authority)
  | receive (op : WorkerOp)
  | setAuthority (entity : EntityId) (component : ComponentId) (authority : Authority)
  | removeEntity (entity : EntityId)

namespace View

def change (view : View) : Change → View
  | .add entity data authority => view.addComponent entity data authority
  | .receive op => view.apply op
  | .setAuthority entity component authority => view.setAuthority entity component authority
  | .removeEntity entity => view.removeEntity entity

def changeAll (view : View) (changes : List Change) : View := changes.foldl change view

end View

/-- What a change makes of the cell of one component.  Only what adds the component fills an empty
cell. -/
def Cell.after (entity : EntityId) (component : ComponentId) (cell : Option Cell) :
    View.Change → Option Cell
  | .add e data authority =>
    if e = entity ∧ data.component = component then some ⟨data, authority⟩ else cell
  | .receive (.addComponent e data) =>
    if e = entity ∧ data.component = component then
      some ⟨data, (cell.map (·.authority)).getD .notAuthoritative⟩
    else cell
  | .receive (.updateComponent e data) =>
    if e = entity ∧ data.component = component then cell.map ({ · with data := data }) else cell
  | .receive (.changeAuthority e c authority) | .setAuthority e c authority =>
    if e = entity ∧ c = component then cell.map ({ · with authority := authority }) else cell
  | .receive (.removeComponent e c) => if e = entity ∧ c = component then none else cell
  | .receive (.removeEntity e) | .removeEntity e => if e = entity then none else cell

/-! ## Two tables -/

/-- What is kept of an entity: the values of its components and the authorities over them. -/
@[ext] structure EntityRecord where
  values : Std.ExtTreeMap ComponentId ComponentData
  authorities : Std.ExtTreeMap ComponentId Authority

namespace EntityRecord

def empty : EntityRecord := ⟨∅, ∅⟩

def add (record : EntityRecord) (data : ComponentData) (authority : Authority) : EntityRecord :=
  ⟨record.values.insert data.component data, record.authorities.insert data.component authority⟩

/-- Writes the value, and an authority only where there is none yet. -/
def reveal (record : EntityRecord) (data : ComponentData) : EntityRecord :=
  ⟨record.values.insert data.component data,
    record.authorities.insertIfNew data.component .notAuthoritative⟩

/-- Overwrites a value that is there. -/
def update (record : EntityRecord) (data : ComponentData) : EntityRecord :=
  { record with values := record.values.modify data.component fun _ => data }

/-- Writes an authority if the other table has the component. -/
def setAuthority (record : EntityRecord) (component : ComponentId) (authority : Authority) :
    EntityRecord :=
  if component ∈ record.values then
    { record with authorities := record.authorities.insert component authority }
  else record

def remove (record : EntityRecord) (component : ComponentId) : EntityRecord :=
  ⟨record.values.erase component, record.authorities.erase component⟩

variable (record : EntityRecord) (component : ComponentId) (authority : Authority)

theorem values_setAuthority : (record.setAuthority component authority).values = record.values := by
  rw [setAuthority]
  split <;> rfl

theorem authorities_setAuthority (c : ComponentId) :
    (record.setAuthority component authority).authorities[c]? =
      if component = c ∧ component ∈ record.values then some authority
      else record.authorities[c]? := by
  rw [setAuthority]
  split
  case isTrue known => simp [known, Std.ExtTreeMap.getElem?_insert]
  case isFalse unknown => simp [unknown]

end EntityRecord

structure RecordStore where
  entities : Std.ExtTreeMap EntityId EntityRecord

namespace RecordStore

def empty : RecordStore := ⟨∅⟩

def hasEntity (store : RecordStore) (entity : EntityId) : Bool := store.entities.contains entity

def component? (store : RecordStore) (entity : EntityId) (component : ComponentId) :
    Option ComponentData :=
  store.entities[entity]?.bind (·.values[component]?)

def authority (store : RecordStore) (entity : EntityId) (component : ComponentId) : Authority :=
  (store.entities[entity]?.bind (·.authorities[component]?)).getD .notAuthoritative

/-- Changes the record of an entity, which is empty if there was none. -/
def enter (store : RecordStore) (entity : EntityId) (f : EntityRecord → EntityRecord) : RecordStore :=
  ⟨store.entities.insert entity (f (store.entities[entity]?.getD .empty))⟩

def change (store : RecordStore) : View.Change → RecordStore
  | .add entity data authority => store.enter entity (·.add data authority)
  | .receive (.addComponent entity data) => store.enter entity (·.reveal data)
  | .receive (.updateComponent entity data) => ⟨store.entities.modify entity (·.update data)⟩
  | .receive (.removeComponent entity component) =>
    ⟨store.entities.modify entity (·.remove component)⟩
  | .receive (.changeAuthority entity component authority)
  | .setAuthority entity component authority =>
    ⟨store.entities.modify entity (·.setAuthority component authority)⟩
  | .receive (.removeEntity entity) | .removeEntity entity => ⟨store.entities.erase entity⟩

def changeAll (store : RecordStore) (changes : List View.Change) : RecordStore :=
  changes.foldl change store

end RecordStore

/-! ## Splitting cells -/

namespace EntityRecord

/-- The two tables that a table of cells is split into. -/
def ofCells (cells : Std.ExtTreeMap ComponentId Cell) : EntityRecord :=
  ⟨cells.map fun _ cell => cell.data, cells.map fun _ cell => cell.authority⟩

theorem ofCells_empty : ofCells ∅ = empty := rfl

variable (cells : Std.ExtTreeMap ComponentId Cell)

theorem values_ofCells (component : ComponentId) :
    (ofCells cells).values[component]? = cells[component]?.map Cell.data :=
  Std.ExtTreeMap.getElem?_map

theorem authorities_ofCells (component : ComponentId) :
    (ofCells cells).authorities[component]? = cells[component]?.map Cell.authority :=
  Std.ExtTreeMap.getElem?_map

theorem mem_values_iff (component : ComponentId) :
    component ∈ (ofCells cells).values ↔ component ∈ (ofCells cells).authorities := by
  rw [ofCells, Std.ExtTreeMap.mem_map, Std.ExtTreeMap.mem_map]

variable {cells}

theorem eq_ofCells {record : EntityRecord}
    (values : ∀ component : ComponentId,
      record.values[component]? = cells[component]?.map Cell.data)
    (authorities : ∀ component : ComponentId,
      record.authorities[component]? = cells[component]?.map Cell.authority) :
    record = ofCells cells := by
  ext1
  · refine Std.ExtTreeMap.ext_getElem? fun component => ?_
    rw [values, values_ofCells]
  · refine Std.ExtTreeMap.ext_getElem? fun component => ?_
    rw [authorities, authorities_ofCells]

theorem add_ofCells (data : ComponentData) (authority : Authority) :
    (ofCells cells).add data authority =
      ofCells (cells.alter data.component fun _ => some ⟨data, authority⟩) := by
  refine eq_ofCells (fun component => ?_) (fun component => ?_)
  · simp only [add, Std.ExtTreeMap.getElem?_insert, Std.ExtTreeMap.getElem?_alter, values_ofCells]
    split <;> rfl
  · simp only [add, Std.ExtTreeMap.getElem?_insert, Std.ExtTreeMap.getElem?_alter,
      authorities_ofCells]
    split <;> rfl

theorem reveal_ofCells (data : ComponentData) :
    (ofCells cells).reveal data =
      ofCells (cells.alter data.component fun cell =>
        some ⟨data, (cell.map (·.authority)).getD .notAuthoritative⟩) := by
  refine eq_ofCells (fun component => ?_) (fun component => ?_)
  · simp only [reveal, Std.ExtTreeMap.getElem?_insert, Std.ExtTreeMap.getElem?_alter,
      values_ofCells]
    split <;> rfl
  · simp only [reveal, Std.ExtTreeMap.getElem?_insertIfNew, Std.ExtTreeMap.getElem?_alter,
      authorities_ofCells, Std.LawfulEqCmp.compare_eq_iff_eq,
      Std.ExtTreeMap.mem_iff_isSome_getElem?]
    by_cases here : data.component = component
    · -- the authority that is there is the one that the cell keeps
      subst here
      cases cells[data.component]? <;> simp
    · simp [here]

theorem update_ofCells (data : ComponentData) :
    (ofCells cells).update data =
      ofCells (cells.modify data.component ({ · with data := data })) := by
  refine eq_ofCells (fun component => ?_) (fun component => ?_)
  · simp only [update, Std.ExtTreeMap.getElem?_modify, values_ofCells]
    split
    · rw [Option.map_map, Option.map_map]
      rfl
    · rfl
  · rw [update, authorities_ofCells, Std.ExtTreeMap.getElem?_modify]
    split
    case isTrue here =>
      obtain rfl := Std.LawfulEqCmp.eq_of_compare here
      rw [Option.map_map]
      rfl
    case isFalse => rfl

theorem setAuthority_ofCells (component : ComponentId) (authority : Authority) :
    (ofCells cells).setAuthority component authority =
      ofCells (cells.modify component ({ · with authority := authority })) := by
  refine eq_ofCells (fun c => ?_) (fun c => ?_)
  · rw [values_setAuthority, values_ofCells, Std.ExtTreeMap.getElem?_modify]
    split
    case isTrue here =>
      obtain rfl := Std.LawfulEqCmp.eq_of_compare here
      rw [Option.map_map]
      rfl
    case isFalse => rfl
  · -- the cell is modified if there is one, and it is there if its value is
    simp only [authorities_setAuthority, authorities_ofCells, Std.ExtTreeMap.getElem?_modify,
      Std.ExtTreeMap.mem_iff_isSome_getElem?, values_ofCells, Std.LawfulEqCmp.compare_eq_iff_eq]
    by_cases here : component = c
    · subst here
      cases cells[component]? <;> simp
    · simp [here]

theorem remove_ofCells (component : ComponentId) :
    (ofCells cells).remove component = ofCells (cells.erase component) := by
  refine eq_ofCells (fun c => ?_) (fun c => ?_)
  · simp only [remove, Std.ExtTreeMap.getElem?_erase, values_ofCells]
    split <;> rfl
  · simp only [remove, Std.ExtTreeMap.getElem?_erase, authorities_ofCells]
    split <;> rfl

end EntityRecord

namespace RecordStore

/-- The store that keeps in two tables what a view keeps in one. -/
def ofView (view : View) : RecordStore := ⟨view.entities.map fun _ => .ofCells⟩

theorem ofView_empty : ofView .empty = empty := rfl

variable (view : View)

theorem getElem?_ofView (entity : EntityId) :
    (ofView view).entities[entity]? = view.entities[entity]?.map .ofCells :=
  Std.ExtTreeMap.getElem?_map

theorem hasEntity_ofView (entity : EntityId) :
    (ofView view).hasEntity entity = view.hasEntity entity :=
  Std.ExtTreeMap.contains_map

theorem component?_ofView (entity : EntityId) (component : ComponentId) :
    (ofView view).component? entity component = view.component? entity component := by
  rw [component?, View.component?, View.cell?, getElem?_ofView]
  cases view.entities[entity]? with
  | none => rfl
  | some cells => exact EntityRecord.values_ofCells cells component

theorem authority_ofView (entity : EntityId) (component : ComponentId) :
    (ofView view).authority entity component = view.authority entity component := by
  rw [authority, View.authority, View.cell?, getElem?_ofView]
  cases view.entities[entity]? with
  | none => rfl
  | some cells =>
    exact congrArg (·.getD .notAuthoritative) (EntityRecord.authorities_ofCells cells component)

variable {view}

theorem eq_ofView {store : RecordStore}
    (same : ∀ entity : EntityId, store.entities[entity]? = view.entities[entity]?.map .ofCells) :
    store = ofView view := by
  cases store
  refine congrArg mk (Std.ExtTreeMap.ext_getElem? fun entity => ?_)
  rw [same, Std.ExtTreeMap.getElem?_map]

/-- A change of a record is followed by the change of the cells that it is split from. -/
theorem enter_ofView (entity : EntityId) (component : ComponentId) {f : EntityRecord → EntityRecord}
    {g : Option Cell → Option Cell}
    (follows : ∀ cells, f (.ofCells cells) = .ofCells (cells.alter component g)) :
    (ofView view).enter entity f = ofView (view.alterCell entity component g) := by
  refine eq_ofView fun e => ?_
  simp only [enter, View.alterCell, Std.ExtTreeMap.getElem?_insert, getElem?_ofView]
  split
  · rw [← EntityRecord.ofCells_empty, Option.getD_map, follows, Option.map_some]
  · rfl

theorem modify_ofView (entity : EntityId) {f : EntityRecord → EntityRecord}
    {g : Std.ExtTreeMap ComponentId Cell → Std.ExtTreeMap ComponentId Cell}
    (follows : ∀ cells, f (.ofCells cells) = .ofCells (g cells)) :
    (⟨(ofView view).entities.modify entity f⟩ : RecordStore) =
      ofView ⟨view.entities.modify entity g⟩ := by
  refine eq_ofView fun e => ?_
  simp only [Std.ExtTreeMap.getElem?_modify, getElem?_ofView]
  split
  · cases view.entities[entity]? with
    | none => rfl
    | some cells => exact congrArg some (follows cells)
  · rfl

theorem erase_ofView (entity : EntityId) :
    (⟨(ofView view).entities.erase entity⟩ : RecordStore) = ofView (view.removeEntity entity) := by
  refine eq_ofView fun e => ?_
  simp only [View.removeEntity, Std.ExtTreeMap.getElem?_erase, getElem?_ofView]
  split <;> rfl

theorem change_ofView (change : View.Change) :
    (ofView view).change change = ofView (view.change change) := by
  cases change with
  | add entity data authority =>
    show (ofView view).enter entity (·.add data authority) = _
    exact enter_ofView entity _ fun _ => EntityRecord.add_ofCells data authority
  | setAuthority entity component authority =>
    exact modify_ofView entity fun _ => EntityRecord.setAuthority_ofCells component authority
  | removeEntity entity => exact erase_ofView entity
  | receive op =>
    cases op with
    | addComponent entity data =>
      show (ofView view).enter entity (·.reveal data) = _
      exact enter_ofView entity _ fun _ => EntityRecord.reveal_ofCells data
    | updateComponent entity data =>
      exact modify_ofView entity fun _ => EntityRecord.update_ofCells data
    | removeComponent entity component =>
      exact modify_ofView entity fun _ => EntityRecord.remove_ofCells component
    | changeAuthority entity component authority =>
      exact modify_ofView entity fun _ => EntityRecord.setAuthority_ofCells component authority
    | removeEntity entity => exact erase_ofView entity

theorem changeAll_ofView (view : View) (changes : List View.Change) :
    (ofView view).changeAll changes = ofView (view.changeAll changes) := by
  induction changes generalizing view with
  | nil => rfl
  | cons change changes ih =>
    rw [changeAll, List.foldl_cons, change_ofView]
    exact ih (view.change change)

end RecordStore

/-! ## One cell -/

namespace View

theorem cell?_change (view : View) (change : Change) (entity : EntityId) (component : ComponentId) :
    (view.change change).cell? entity component =
      Cell.after entity component (view.cell? entity component) change := by
  cases change with
  | add e data authority => exact view.cell?_alterCell e entity _ _ _
  | setAuthority e c authority => exact view.cell?_modifyCell e entity _ _ _
  | removeEntity e => exact view.cell?_removeEntity e entity _
  | receive op =>
    cases op with
    | addComponent e data => exact view.cell?_alterCell e entity _ _ _
    | updateComponent e data => exact view.cell?_modifyCell e entity _ _ _
    | removeComponent e c => exact view.cell?_removeComponent e entity _ _
    | changeAuthority e c authority => exact view.cell?_modifyCell e entity _ _ _
    | removeEntity e => exact view.cell?_removeEntity e entity _

theorem cell?_changeAll (view : View) (changes : List Change) (entity : EntityId)
    (component : ComponentId) :
    (view.changeAll changes).cell? entity component =
      changes.foldl (Cell.after entity component) (view.cell? entity component) := by
  induction changes generalizing view with
  | nil => rfl
  | cons change changes ih =>
    rw [changeAll, List.foldl_cons, List.foldl_cons, ← cell?_change]
    exact ih (view.change change)

end View

/-- The value in the cell, if there is one, is a value of the component. -/
def Cell.Fits (component : ComponentId) (cell : Option Cell) : Prop :=
  ∀ held ∈ cell, held.data.component = component

theorem Cell.Fits.after {entity : EntityId} {component : ComponentId} {cell : Option Cell}
    (fits : Cell.Fits component cell) (change : View.Change) :
    Cell.Fits component (Cell.after entity component cell change) := by
  -- Changes do four things to a cell, and what one of them leaves there was written for the component
  -- or was there before.
  have written {e : EntityId} {data : ComponentData} {authority : Authority} :
      Cell.Fits component
        (if e = entity ∧ data.component = component then some ⟨data, authority⟩ else cell) := by
    split
    case isTrue here =>
      intro held member
      obtain rfl := Option.some.inj member
      exact here.2
    case isFalse => exact fits
  have overwritten {e : EntityId} {data : ComponentData} :
      Cell.Fits component (if e = entity ∧ data.component = component then
        cell.map ({ · with data := data }) else cell) := by
    split
    case isTrue here =>
      intro held member
      obtain ⟨before, _, rfl⟩ := Option.map_eq_some_iff.mp member
      exact here.2
    case isFalse => exact fits
  have granted {e : EntityId} {c : ComponentId} {authority : Authority} :
      Cell.Fits component (if e = entity ∧ c = component then
        cell.map ({ · with authority := authority }) else cell) := by
    split
    case isTrue =>
      intro held member
      obtain ⟨before, there, rfl⟩ := Option.map_eq_some_iff.mp member
      exact fits before there
    case isFalse => exact fits
  have emptied {p : Prop} [Decidable p] : Cell.Fits component (if p then none else cell) := by
    split
    case isTrue => simp [Cell.Fits]
    case isFalse => exact fits
  cases change with
  | add e data authority => exact written
  | setAuthority e c authority => exact granted
  | removeEntity e => exact emptied
  | receive op =>
    cases op with
    | addComponent e data => exact written
    | updateComponent e data => exact overwritten
    | removeComponent e c => exact emptied
    | changeAuthority e c authority => exact granted
    | removeEntity e => exact emptied

theorem Cell.fits_foldl_after (changes : List View.Change) (entity : EntityId)
    (component : ComponentId) :
    Cell.Fits component (changes.foldl (Cell.after entity component) none) :=
  List.foldlRecOn changes _ (motive := Cell.Fits component) (by simp [Cell.Fits])
    fun _ fits change _ => fits.after change

/-! ## Store, view and cell -/

/-- After any changes of an empty store, the two tables of every entity have the same components, and
every value stands under its own component.  Store and view show the same entities; the value and the
authority that either shows of a component are those of its cell, which hears of the changes alone.
In particular a component that is not visible has no authority, and one that becomes visible again
starts without. -/
theorem cells_of_changes (changes : List View.Change) :
    let store := RecordStore.empty.changeAll changes
    let view := View.empty.changeAll changes
    (∀ (entity : EntityId) (record : EntityRecord), store.entities[entity]? = some record →
      (∀ component, component ∈ record.values ↔ component ∈ record.authorities) ∧
      ∀ (component : ComponentId) (data : ComponentData),
        record.values[component]? = some data → data.component = component) ∧
    (∀ entity, store.hasEntity entity = view.hasEntity entity) ∧
    (∀ entity component,
      let cell := changes.foldl (Cell.after entity component) none
      store.component? entity component = cell.map (·.data) ∧
      store.authority entity component = (cell.map (·.authority)).getD .notAuthoritative ∧
      view.component? entity component = cell.map (·.data) ∧
      view.authority entity component = (cell.map (·.authority)).getD .notAuthoritative) ∧
    ∀ entity data, view.component? entity data.component = none →
      view.authority entity data.component = .notAuthoritative ∧
      (view.apply (.addComponent entity data)).authority entity data.component =
        .notAuthoritative := by
  intro store view
  -- The store is the view with its cells split, so all is read off the cells.
  have split : store = .ofView view := by
    rw [← RecordStore.changeAll_ofView, RecordStore.ofView_empty]
  have cells (entity : EntityId) (component : ComponentId) :
      view.cell? entity component = changes.foldl (Cell.after entity component) none := by
    rw [View.cell?_changeAll, View.cell?_empty]
  refine ⟨fun entity record held => ?_, fun entity => ?_, fun entity component => ?_,
    fun entity data hidden => ?_⟩
  · rw [split, RecordStore.getElem?_ofView, Option.map_eq_some_iff] at held
    obtain ⟨row, there, rfl⟩ := held
    refine ⟨EntityRecord.mem_values_iff row, fun component data value => ?_⟩
    rw [EntityRecord.values_ofCells, Option.map_eq_some_iff] at value
    obtain ⟨cell, filled, rfl⟩ := value
    have shown : view.cell? entity component = some cell := by
      rw [View.cell?, there, Option.bind_some, filled]
    rw [cells] at shown
    exact Cell.fits_foldl_after changes entity component cell shown
  · rw [split, RecordStore.hasEntity_ofView]
  · rw [split, RecordStore.component?_ofView, RecordStore.authority_ofView, View.component?,
      View.authority, cells]
    exact ⟨rfl, rfl, rfl, rfl⟩
  · have empty : view.cell? entity data.component = none := Option.map_eq_none_iff.mp hidden
    constructor
    · rw [View.authority, empty]
      rfl
    · rw [View.authority, View.apply, View.cell?_alterCell, if_pos ⟨rfl, rfl⟩, empty]
      rfl

/-- An authority that was granted is gone with its component: after the component is removed and added
again, the store holds it without. -/
theorem cells_of_changes_readded :
    let entity : EntityId := ⟨7⟩
    let changes : List View.Change := [.add entity (.accessList .empty) .authoritative,
      .receive (.removeComponent entity .accessList), .receive (.addComponent entity (.other 50))]
    let store := RecordStore.empty.changeAll changes
    (∃ record, store.entities[entity]? = some record ∧
      record.values[ComponentId.accessList]? = some (.other 50) ∧
      ComponentId.accessList ∈ record.authorities) ∧
    store.authority entity .accessList = .notAuthoritative ∧
    (View.empty.changeAll changes).authority entity .accessList = .notAuthoritative := by
  intro entity changes store
  obtain ⟨records, _, cells, _⟩ := cells_of_changes changes
  obtain ⟨value, authority, _, authority'⟩ := cells entity .accessList
  obtain ⟨record, held, value⟩ := Option.bind_eq_some_iff.mp value
  have listed : ComponentId.accessList ∈ record.values :=
    Std.ExtTreeMap.mem_iff_isSome_getElem?.mpr (Option.isSome_of_eq_some value)
  exact ⟨⟨record, held, value, ((records entity record held).1 _).mp listed⟩, authority, authority'⟩

end Handover
