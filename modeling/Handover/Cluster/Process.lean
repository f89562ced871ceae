import Handover.Cluster.Event

/-! # Worker processes

A process of the cluster has a translator, a view and an enforcer of its own, and two queues of what
it was sent but has not seen yet: mappings, of which it takes one per tick, and messages, of which it
takes all.
-/

namespace Handover

open Cluster (Event)

structure Process where
  name : WorkerName
  translator : Translator
  view : View
  enforcer : Enforcer
  /-- Mappings that were not delivered yet, oldest first. -/
  mappings : List MappingUpdate
  /-- Messages that were not delivered yet, oldest first. -/
  inbox : List WorkerOp

namespace Process

/-- A process that has just started, with what waits for it. -/
def boot (name : WorkerName) (mappings : List MappingUpdate) (inbox : List WorkerOp) : Process where
  name
  translator := .start name (some ⟨[]⟩)
  view := .empty
  enforcer := .start name
  mappings
  inbox

/-- The virtual worker that the balancing strategy of the process was told; `unassigned` before. -/
def virtualWorker (process : Process) : VirtualWorkerId :=
  (process.translator.strategy.map (·.current)).getD .unassigned

def send (process : Process) (op : WorkerOp) : Process :=
  { process with inbox := process.inbox ++ [op] }

/-! ## Delivery -/

def takeMapping (process : Process) (update : MappingUpdate) : Logged Event Process := do
  Logged.report ((process.translator.events update).map .translator)
  return { process with translator := process.translator.apply update }

/-- Takes a message: the view first, then the enforcer. -/
def receive (process : Process) (op : WorkerOp) : Logged Event Process := do
  Logged.report ((process.view.events op).map .view)
  Logged.report ((process.enforcer.handleEvents op).map .enforcer)
  return { process with view := process.view.apply op, enforcer := process.enforcer.handle op }

/-- Takes the oldest mapping, if one waits, and then all messages. -/
def deliver (process : Process) : Logged Event Process := do
  let process ← match process.mappings with
    | [] => pure process
    | update :: mappings => takeMapping { process with mappings } update
  process.inbox.foldlM receive { process with inbox := [] }

/-! ## Coordination -/

def act (process : Process) (trigger : Trigger) : Logged Event Process := do
  Logged.report ((process.enforcer.actEvents trigger).map .enforcer)
  return { process with enforcer := process.enforcer.act trigger }

/-- The entities that the process may hand over, in ascending order. -/
def held (process : Process) : List EntityId :=
  process.view.entityIds.filter (process.view.mayHandOver ·)

/-- Queues every entity that the process may hand over, in the order that `visit` gives them. -/
def rescan (visit : List EntityId → List EntityId) (process : Process) : Logged Event Process :=
  (visit process.held).foldlM (fun process entity => process.act (.queue entity)) process

def requests (process : Process) : List AclRequest :=
  process.enforcer.requests process.view process.translator

def coordinate (process : Process) : Logged Event Process := do
  Logged.report
    ((process.enforcer.processEvents process.view process.translator).map .enforcer)
  return {
    process with enforcer := process.enforcer.process process.view process.translator }

end Process

end Handover
