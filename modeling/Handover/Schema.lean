import Handover.AclRequest
import Handover.Json.Format

/-! # The JSON form of the replicated data

Identifiers are written as their bare numbers and names, records by their fields, and messages and
component values as variants.  An access list is an object whose names are component numbers; where one
occurs twice, the last counts.
-/

namespace Handover

open Json

/-! ## Identifiers -/

def ComponentId.format : Format ComponentId := .uint32

def VirtualWorkerId.format : Format VirtualWorkerId := Format.uint32.map .mk (·.val)

def EntityId.format : Format EntityId := Format.int64.map .mk (·.val)

def WorkerName.format : Format WorkerName := Format.text.map .mk (·.text)

/-! ## Components -/

def Authority.format : Format Authority where
  read := readVariant [
    .bare "NotAuthoritative" .notAuthoritative,
    .bare "Authoritative" .authoritative,
    .bare "AuthorityLossImminent" .lossImminent]
  write
    | .notAuthoritative => .text "NotAuthoritative"
    | .authoritative => .text "Authoritative"
    | .lossImminent => .text "AuthorityLossImminent"

namespace AccessList

/-- The writers as an object from component numbers to names. -/
def writersFormat : Format (Std.ExtTreeMap ComponentId WorkerName) where
  read := (.ofList ·) <$> Decoder.mapOf ComponentId.format.read WorkerName.format.read
  write writers := .object (writers.toList.map fun (component, worker) =>
    (toString component.toNat, WorkerName.format.write worker))

def shape : Record AccessList where
  title := "struct EntityAcl"
  blank := .empty
  fields := [.mandatory "write_acl" writersFormat (·.writers) fun writers _ => ⟨writers⟩]

def format : Format AccessList := shape.format

end AccessList

namespace ComponentData

def intentShape : Record VirtualWorkerId where
  title := "struct variant ComponentData::AuthorityIntent"
  blank := .unassigned
  fields := [.mandatory "virtual_worker" VirtualWorkerId.format id fun worker _ => worker]

def presenceShape : Record (List ComponentId) where
  title := "struct variant ComponentData::ComponentPresence"
  blank := []
  fields := [.mandatory "component_ids" (.list ComponentId.format) id fun components _ => components]

def format : Format ComponentData where
  read := readVariant [
    .fields "AuthorityIntent" intentShape .intent,
    .fields "ComponentPresence" presenceShape .presence,
    .wrapped "EntityAcl" AccessList.format .accessList,
    .wrapped "Opaque" ComponentId.format .other]
  write
    | .intent worker => .object [("AuthorityIntent", intentShape.write worker)]
    | .presence components => .object [("ComponentPresence", presenceShape.write components)]
    | .accessList acl => .object [("EntityAcl", AccessList.format.write acl)]
    | .other component => .object [("Opaque", ComponentId.format.write component)]

end ComponentData

/-! ## Messages -/

namespace WorkerOp

def entityField {α : Type} (get : α → EntityId) (set : EntityId → α → α) : Json.Field α :=
  .mandatory "entity" EntityId.format get set

/-- The fields of the two messages that carry a value. -/
def valueShape (title : String) : Record (EntityId × ComponentData) where
  title
  blank := default
  fields := [
    entityField (·.1) fun entity op => (entity, op.2),
    .mandatory "data" ComponentData.format (·.2) fun data op => (op.1, data)]

def addShape : Record (EntityId × ComponentData) :=
  valueShape "struct variant WorkerOp::AddComponent"

def updateShape : Record (EntityId × ComponentData) :=
  valueShape "struct variant WorkerOp::ComponentUpdate"

def removeShape : Record (EntityId × ComponentId) where
  title := "struct variant WorkerOp::RemoveComponent"
  blank := default
  fields := [
    entityField (·.1) fun entity op => (entity, op.2),
    .mandatory "component" ComponentId.format (·.2) fun component op => (op.1, component)]

def authorityShape : Record (EntityId × ComponentId × Authority) where
  title := "struct variant WorkerOp::AuthorityChange"
  blank := default
  fields := [
    entityField (·.1) fun entity op => (entity, op.2),
    .mandatory "component" ComponentId.format (·.2.1) fun component op => (op.1, component, op.2.2),
    .mandatory "authority" Authority.format (·.2.2) fun authority op => (op.1, op.2.1, authority)]

def removeEntityShape : Record EntityId where
  title := "struct variant WorkerOp::RemoveEntity"
  blank := default
  fields := [entityField id fun entity _ => entity]

def format : Format WorkerOp where
  read := readVariant [
    .fields "AddComponent" addShape fun (entity, data) => .addComponent entity data,
    .fields "ComponentUpdate" updateShape fun (entity, data) => .updateComponent entity data,
    .fields "RemoveComponent" removeShape fun (entity, component) =>
      .removeComponent entity component,
    .fields "AuthorityChange" authorityShape fun (entity, component, authority) =>
      .changeAuthority entity component authority,
    .fields "RemoveEntity" removeEntityShape .removeEntity]
  write
    | .addComponent entity data => .object [("AddComponent", addShape.write (entity, data))]
    | .updateComponent entity data => .object [("ComponentUpdate", updateShape.write (entity, data))]
    | .removeComponent entity component =>
      .object [("RemoveComponent", removeShape.write (entity, component))]
    | .changeAuthority entity component authority =>
      .object [("AuthorityChange", authorityShape.write (entity, component, authority))]
    | .removeEntity entity => .object [("RemoveEntity", removeEntityShape.write entity)]

end WorkerOp

/-! ## Mappings -/

def MappingEntry.shape : Record MappingEntry where
  title := "struct MappingEntry"
  blank := default
  fields := [
    .mandatory "virtual_worker" VirtualWorkerId.format (·.virtualWorker) fun id entry =>
      { entry with virtualWorker := id },
    .mandatory "physical_worker" WorkerName.format (·.worker) fun worker entry =>
      { entry with worker },
    .mandatory "worker_entity" EntityId.format (·.workerEntity) fun entity entry =>
      { entry with workerEntity := entity }]

def MappingEntry.format : Format MappingEntry := shape.format

def MappingUpdate.shape : Record MappingUpdate where
  title := "struct TranslationUpdate"
  blank := default
  fields := [.mandatory "entries" (.list MappingEntry.format) (·.entries) fun entries _ => ⟨entries⟩]

def MappingUpdate.format : Format MappingUpdate := shape.format

/-! ## Requests -/

namespace AclRequest

/-- A set of components as the list of its members in ascending order. -/
def componentsFormat : Format (Std.ExtTreeSet ComponentId) :=
  (Format.list ComponentId.format).map (.ofList ·) (·.toList)

def shape : Record AclRequest where
  title := "struct AclWriteAuthorityRequest"
  blank := ⟨default, default, ∅⟩
  fields := [
    .mandatory "entity_id" EntityId.format (·.entity) fun entity request => { request with entity },
    .mandatory "owning_worker_id" WorkerName.format (·.owner) fun owner request =>
      { request with owner },
    .mandatory "component_ids" componentsFormat (·.components) fun components request =>
      { request with components }]

def format : Format AclRequest := shape.format

end AclRequest

end Handover
