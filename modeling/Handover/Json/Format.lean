import Handover.Json.Decoder
import Handover.Json.Value

/-! # Two-way formats

A format says how the values of a type are written as JSON and how they are read.  Records and
variants are described once, by their fields and cases, and both directions follow.

A record is read from an object, whose members may come in any order and may be mixed with members
nobody asks for, or from a list of the fields in their order.  A field that may be left out keeps the
value that it has in the blank record.  A variant is an object with one member, whose name tells the
case; a case without data may also be written as its bare name.
-/

namespace Handover.Json

open Decoder (advance peek expect hasItem allMembers skip wrongType)

structure Format (α : Type) where
  read : Decoder α
  write : α → Json

namespace Format

variable {α β : Type}

/-- The format of another type that has the same written form. -/
def map (format : Format α) (toNew : α → β) (toOld : β → α) : Format β where
  read := toNew <$> format.read
  write b := format.write (toOld b)

/-! ## Simple formats -/

def uint32 : Format UInt32 where
  read := Decoder.integer "u32" fun z =>
    if 0 ≤ z ∧ z < UInt32.size then some (.ofNat z.toNat) else none
  write n := .number n.toNat

def uint64 : Format UInt64 where
  read := Decoder.integer "u64" fun z =>
    if 0 ≤ z ∧ z < UInt64.size then some (.ofNat z.toNat) else none
  write n := .number n.toNat

def int64 : Format Int64 where
  read := Decoder.integer "i64" fun z =>
    if Int64.minValue.toInt ≤ z ∧ z ≤ Int64.maxValue.toInt then some (.ofInt z) else none
  write n := .number n.toInt

def text : Format String := ⟨Decoder.text, .text⟩

def boolean : Format Bool := ⟨Decoder.boolean, .boolean⟩

def list (item : Format α) : Format (List α) where
  read := Decoder.listOf item.read
  write xs := .list (xs.map item.write)

end Format

/-! ## Records -/

/-- A field of a record: its value is read as a change of the record. -/
structure Field (α : Type) where
  name : String
  required : Bool
  read : Decoder (α → α)
  write : α → Json

namespace Field

variable {α β : Type}

def mandatory (name : String) (format : Format β) (get : α → β) (set : β → α → α) : Field α where
  name
  required := true
  read := set <$> format.read
  write a := format.write (get a)

def optional (name : String) (format : Format β) (get : α → β) (set : β → α → α) : Field α :=
  { mandatory name format get set with required := false }

end Field

structure Record (α : Type) where
  /-- What the record is called in errors. -/
  title : String
  /-- The record before any of its fields is read. -/
  blank : α
  /-- The fields in the order in which they are written. -/
  fields : List (Field α)

namespace Record

variable {α : Type}

/-- What a list of too few fields is told to have been. -/
def listTitle (record : Record α) : String :=
  let count := record.fields.length
  s!"{record.title} with {count} element" ++ if count = 1 then "" else "s"

/-- Reads fields from the items of a list; the first argument counts the items before. -/
def readItems (record : Record α) (index : Nat) (a : α) : List (Field α) → Decoder α
  | [] => return a
  | field :: fields => do
    if ← hasItem (index = 0) then
      let change ← field.read
      readItems record (index + 1) (change a) fields
    else if field.required then
      throw (.mismatch (.wrongLength index record.listTitle))
    else readItems record (index + 1) a fields

/-- A record that is being read from an object. -/
structure Partial (α : Type) where
  value : α
  seen : List String

/-- Reads the rest of a member, given its name. -/
def readMember (record : Record α) (part : Partial α) (name : String) : Decoder (Partial α) := do
  match record.fields.find? (·.name = name) with
  | some field =>
    if name ∈ part.seen then throw (.mismatch (.duplicateField name))
    expect ':'
    let change ← field.read
    return ⟨change part.value, name :: part.seen⟩
  | none =>
    expect ':'
    skip
    return part

/-- The record, if no required field is missing. -/
def finish (record : Record α) (part : Partial α) : Decoder α :=
  match record.fields.find? fun field => field.required ∧ field.name ∉ part.seen with
  | some field => throw (.mismatch (.missingField field.name))
  | none => return part.value

def read (record : Record α) : Decoder α := do
  match ← peek with
  | '[' =>
    advance
    let a ← record.readItems 0 record.blank record.fields
    expect ']'
    return a
  | '\x7b' =>
    advance
    let part ← allMembers Decoder.name record.readMember ⟨record.blank, []⟩
    let a ← record.finish part
    expect '\x7d'
    return a
  | _ => wrongType record.title

def write (record : Record α) (a : α) : Json :=
  .object (record.fields.map fun field => (field.name, field.write a))

def format (record : Record α) : Format α := ⟨record.read, record.write⟩

end Record

/-! ## Variants -/

/-- What comes with the name of a case. -/
inductive CaseData (α : Type) where
  | none (value : α)
  /-- Data of some kind, as errors call it. -/
  | some (kind : String) (read : Decoder α)

structure Case (α : Type) where
  name : String
  data : CaseData α

namespace Case

variable {α β : Type}

def fields (name : String) (record : Record β) (make : β → α) : Case α :=
  ⟨name, .some "struct variant" (make <$> record.read)⟩

def wrapped (name : String) (format : Format β) (make : β → α) : Case α :=
  ⟨name, .some "newtype variant" (make <$> format.read)⟩

def bare (name : String) (value : α) : Case α := ⟨name, .none value⟩

end Case

variable {α : Type}

/-- The name of a case, which only a string can be. -/
def caseName (cases : List (Case α)) : Decoder (Case α) := do
  match ← peek with
  | '"' =>
    advance
    let name ← string
    match cases.find? (·.name = name) with
    | some c => return c
    | none => throw (.mismatch (.unknownVariant name (cases.map (·.name))))
  | _ => throw .malformed

/-- A value of a type with the given cases.  No other JSON than an object or a string is looked at. -/
def readVariant (cases : List (Case α)) : Decoder α := do
  match ← peek with
  | '\x7b' =>
    advance
    let c ← caseName cases
    expect ':'
    let a ← match c.data with
      | .none a => do Decoder.null; pure a
      | .some _ read => read
    expect '\x7d'
    return a
  | '"' =>
    match (← caseName cases).data with
    | .none a => return a
    | .some kind _ => throw (.mismatch (.wrongType .unitVariant kind))
  | _ => throw .malformed

end Handover.Json
