import Handover.Schema
import Handover.Settings.Basic

/-! # The JSON form of settings

Settings, load balancing and coordination may leave out any field, which then has its standard value.
A scenario that is given replaces the standard one as a whole: it must list its workers, and a list it
leaves out is empty.
-/

namespace Handover

open Json

def LoadBalancing.shape : Record LoadBalancing where
  title := "struct LoadBalancingSettings"
  blank := .standard
  fields := [.optional "enabled" .boolean (·.enabled) fun enabled _ => ⟨enabled⟩]

def Coordination.shape : Record Coordination where
  title := "struct CoordinationSettings"
  blank := .standard
  fields := [
    .optional "tick_rate_hz" .uint32 (·.tickRate) fun tickRate c => { c with tickRate },
    .optional "ticks" .uint64 (·.ticks) fun ticks c => { c with ticks },
    .optional "rescan_interval_ticks" .uint64 (·.rescanInterval) fun rescanInterval c =>
      { c with rescanInterval },
    .optional "realtime" .boolean (·.realtime) fun realtime c => { c with realtime }]

def EntitySeed.shape : Record EntitySeed where
  title := "struct EntitySettings"
  blank := default
  fields := [
    .mandatory "id" EntityId.format (·.id) fun id seed => { seed with id },
    .mandatory "intent" VirtualWorkerId.format (·.intent) fun intent seed => { seed with intent },
    .mandatory "components" (.list ComponentId.format) (·.components) fun components seed =>
      { seed with components }]

def IntentChange.shape : Record IntentChange where
  title := "struct IntentChange"
  blank := default
  fields := [
    .mandatory "tick" .uint64 (·.tick) fun tick change => { change with tick },
    .mandatory "entity" EntityId.format (·.entity) fun entity change => { change with entity },
    .mandatory "intent" VirtualWorkerId.format (·.intent) fun intent change =>
      { change with intent }]

def WorkerRestart.shape : Record WorkerRestart where
  title := "struct WorkerRestart"
  blank := default
  fields := [
    .mandatory "tick" .uint64 (·.tick) fun tick restart => { restart with tick },
    .mandatory "worker" WorkerName.format (·.worker) fun worker restart =>
      { restart with worker }]

def Scenario.shape : Record Scenario where
  title := "struct ScenarioSettings"
  blank := .blank
  fields := [
    .mandatory "workers" (.list WorkerName.format) (·.workers) fun workers s => { s with workers },
    .optional "entities" (.list EntitySeed.shape.format) (·.entities) fun entities s =>
      { s with entities },
    .optional "intent_changes" (.list IntentChange.shape.format) (·.intentChanges)
      fun intentChanges s => { s with intentChanges },
    .optional "restarts" (.list WorkerRestart.shape.format) (·.restarts) fun restarts s =>
      { s with restarts }]

namespace Settings

def shape : Record Settings where
  title := "struct Settings"
  blank := .standard
  fields := [
    .optional "log_level" .text (·.logLevel) fun logLevel s => { s with logLevel },
    .optional "load_balancing" LoadBalancing.shape.format (·.loadBalancing) fun loadBalancing s =>
      { s with loadBalancing },
    .optional "coordination" Coordination.shape.format (·.coordination) fun coordination s =>
      { s with coordination },
    .optional "scenario" Scenario.shape.format (·.scenario) fun scenario s => { s with scenario }]

def format : Format Settings := shape.format

/-- Reads settings from their JSON text. -/
def ofText (text : String) : Except DecodeError Settings := Decoder.decode format.read text

/-- The text of settings that lists every field on a line of its own. -/
def text (settings : Settings) : String := (format.write settings).indented

end Settings

end Handover
