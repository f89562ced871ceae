import Handover.Proofs.Json.Lawful
import Handover.Schema

/-! # The replicated data is read back from its text

Records are lawful by their fields, messages and component values case by case.  Two forms lose
something in general and nothing here.  An access list keeps the last of several writers of a component,
but it is written from a table, where each component has one; a set of components drops repetitions and
the order, but it is written from a set, and a set is determined by its members.
-/

namespace Handover

open Json

/-! ## Identifiers -/

theorem ComponentId.lawful_format : ComponentId.format.Lawful := Format.lawful_uint32

theorem VirtualWorkerId.lawful_format : VirtualWorkerId.format.Lawful :=
  Format.lawful_uint32.map fun _ => rfl

theorem EntityId.lawful_format : EntityId.format.Lawful := Format.lawful_int64.map fun _ => rfl

theorem WorkerName.lawful_format : WorkerName.format.Lawful := Format.lawful_text.map fun _ => rfl

/-! ## Components -/

theorem Authority.lawful_format : Authority.format.Lawful := by
  intro authority
  cases authority with
  | notAuthoritative => exact readsBack_bare rfl
  | authoritative => exact readsBack_bare rfl
  | lossImminent => exact readsBack_bare rfl

namespace AccessList

-- A number written as a name is the bare number between quotes.
theorem run_componentName (component : ComponentId) (rest : List Char) :
    (Decoder.numericName ComponentId.format.read).run
      (stringLiteral (toString component.toNat) ++ rest) = .ok (component, rest) := by
  have written : (toString component.toNat).toList = Nat.toDigits 10 component.toNat := by
    rw [Nat.toString_eq_ofList_toDigits, String.toList_ofList]
  have number : (toString (component.toNat : Int)).toList = Nat.toDigits 10 component.toNat := by
    rw [Numeral.toList_toString_of_nonneg (by omega), Int.toNat_natCast]
  have reads : Reads ComponentId.format.read (toString (component.toNat : Int)).toList component :=
    ComponentId.lawful_format component .compact Layout.plain_compact 0
  refine run_numericName ?_ ?_ rest
  · rwa [number, ← written] at reads
  · rw [written]
    exact fun c member => Nat.isDigit_of_mem_toDigits (by decide) (by decide) member

theorem lawful_writersFormat : writersFormat.Lawful := by
  intro writers
  have same : Std.ExtTreeMap.ofList writers.toList = writers := by
    refine Std.ExtTreeMap.ext_getElem? fun component => ?_
    cases held : writers[component]? with
    | some worker =>
      exact Std.ExtTreeMap.getElem?_ofList_of_mem Std.ReflCmp.compare_self
        Std.ExtTreeMap.distinct_keys_toList
        (Std.ExtTreeMap.mem_toList_iff_getElem?_eq_some.mpr held)
    | none =>
      refine Std.ExtTreeMap.getElem?_ofList_of_contains_eq_false ?_
      rw [Std.ExtTreeMap.map_fst_toList_eq_keys]
      simpa using held
  have back := (readsBack_mapOf run_componentName WorkerName.lawful_format writers.toList).map
    (Std.ExtTreeMap.ofList · compare)
  rwa [same] at back

theorem lawful_format : format.Lawful :=
  Record.lawful (by decide) fun _ =>
    .cons (Field.readsBack_mandatory lawful_writersFormat) .nil

end AccessList

namespace ComponentData

theorem lawful_intentShape : intentShape.format.Lawful :=
  Record.lawful (by decide) fun _ =>
    .cons (Field.readsBack_mandatory VirtualWorkerId.lawful_format) .nil

theorem lawful_presenceShape : presenceShape.format.Lawful :=
  Record.lawful (by decide) fun _ =>
    .cons (Field.readsBack_mandatory ComponentId.lawful_format.list) .nil

theorem lawful_format : format.Lawful := by
  intro data
  cases data with
  | intent worker => exact readsBack_case rfl ((lawful_intentShape worker).map _)
  | presence components => exact readsBack_case rfl ((lawful_presenceShape components).map _)
  | accessList acl => exact readsBack_case rfl ((AccessList.lawful_format acl).map _)
  | other component => exact readsBack_case rfl ((ComponentId.lawful_format component).map _)

end ComponentData

/-! ## Messages -/

namespace WorkerOp

theorem lawful_valueShape (title : String) : (valueShape title).format.Lawful :=
  Record.lawful (by simp [valueShape, entityField, Field.mandatory]) fun _ =>
    .cons (Field.readsBack_mandatory EntityId.lawful_format) <|
    .cons (Field.readsBack_mandatory ComponentData.lawful_format) .nil

theorem lawful_removeShape : removeShape.format.Lawful :=
  Record.lawful (by decide) fun _ =>
    .cons (Field.readsBack_mandatory EntityId.lawful_format) <|
    .cons (Field.readsBack_mandatory ComponentId.lawful_format) .nil

theorem lawful_authorityShape : authorityShape.format.Lawful :=
  Record.lawful (by decide) fun _ =>
    .cons (Field.readsBack_mandatory EntityId.lawful_format) <|
    .cons (Field.readsBack_mandatory ComponentId.lawful_format) <|
    .cons (Field.readsBack_mandatory Authority.lawful_format) .nil

theorem lawful_removeEntityShape : removeEntityShape.format.Lawful :=
  Record.lawful (by decide) fun _ =>
    .cons (Field.readsBack_mandatory EntityId.lawful_format) .nil

theorem lawful_format : format.Lawful := by
  intro op
  cases op with
  | addComponent entity data => exact readsBack_case rfl ((lawful_valueShape _ (entity, data)).map _)
  | updateComponent entity data =>
    exact readsBack_case rfl ((lawful_valueShape _ (entity, data)).map _)
  | removeComponent entity component =>
    exact readsBack_case rfl ((lawful_removeShape (entity, component)).map _)
  | changeAuthority entity component authority =>
    exact readsBack_case rfl ((lawful_authorityShape (entity, component, authority)).map _)
  | removeEntity entity => exact readsBack_case rfl ((lawful_removeEntityShape entity).map _)

end WorkerOp

/-! ## Mappings -/

theorem MappingEntry.lawful_format : MappingEntry.format.Lawful :=
  Record.lawful (by decide) fun _ =>
    .cons (Field.readsBack_mandatory VirtualWorkerId.lawful_format) <|
    .cons (Field.readsBack_mandatory WorkerName.lawful_format) <|
    .cons (Field.readsBack_mandatory EntityId.lawful_format) .nil

theorem MappingUpdate.lawful_format : MappingUpdate.format.Lawful :=
  Record.lawful (by decide) fun _ =>
    .cons (Field.readsBack_mandatory MappingEntry.lawful_format.list) .nil

/-! ## Requests -/

namespace AclRequest

theorem lawful_componentsFormat : componentsFormat.Lawful :=
  ComponentId.lawful_format.list.map fun components =>
    Std.ExtTreeSet.ext_mem fun component => by
      rw [Std.ExtTreeSet.mem_ofList, List.contains_iff_mem, Std.ExtTreeSet.mem_toList]

theorem lawful_format : format.Lawful :=
  Record.lawful (by decide) fun _ =>
    .cons (Field.readsBack_mandatory EntityId.lawful_format) <|
    .cons (Field.readsBack_mandatory WorkerName.lawful_format) <|
    .cons (Field.readsBack_mandatory lawful_componentsFormat) .nil

end AclRequest

/-! ## Whole texts -/

/-- The compact text of a value decodes to that value and to no other, for every type of replicated
data: names of any characters, numbers up to their limits, and lists, tables and sets of any size. -/
theorem data_round_trip :
    (∀ op, Decoder.decode WorkerOp.format.read (WorkerOp.format.write op).compact = .ok op) ∧
    (∀ data, Decoder.decode ComponentData.format.read (ComponentData.format.write data).compact =
      .ok data) ∧
    (∀ authority, Decoder.decode Authority.format.read (Authority.format.write authority).compact =
      .ok authority) ∧
    (∀ acl, Decoder.decode AccessList.format.read (AccessList.format.write acl).compact = .ok acl) ∧
    (∀ entry, Decoder.decode MappingEntry.format.read (MappingEntry.format.write entry).compact =
      .ok entry) ∧
    (∀ update, Decoder.decode MappingUpdate.format.read (MappingUpdate.format.write update).compact =
      .ok update) ∧
    (∀ request, Decoder.decode AclRequest.format.read (AclRequest.format.write request).compact =
      .ok request) :=
  ⟨WorkerOp.lawful_format.decode_compact, ComponentData.lawful_format.decode_compact,
    Authority.lawful_format.decode_compact, AccessList.lawful_format.decode_compact,
    MappingEntry.lawful_format.decode_compact, MappingUpdate.lawful_format.decode_compact,
    AclRequest.lawful_format.decode_compact⟩

end Handover
