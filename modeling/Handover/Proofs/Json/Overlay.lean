import Handover.Proofs.Json.Data
import Handover.Proofs.Json.Listing
import Handover.Settings.Schema

/-! # Partial settings

A text may list any part of some settings: it is read as settings that have what is listed and for
everything else their standard values.  An omitted scenario is the standard one, but a list omitted
from a scenario that is given is empty.

All levels of objects are one case.  Each type has the texts of its fields (`entries`) and the value for
the names that are listed (`overlay`), which starts as the blank record and takes over one field after
the other (`follows`); `Record.Follows.reads` does the rest, one level inside the other.
-/

namespace Handover

open Json

/-! ## Load balancing and coordination -/

namespace LoadBalancing

/-- The fields, each with the texts that give it its value. -/
def entries (loadBalancing : LoadBalancing) : List Entry := [
  ⟨"enabled", BooleanText loadBalancing.enabled⟩]

/-- The fields that are listed, and the standard values of the others. -/
def overlay (loadBalancing : LoadBalancing) (listed : List String) : LoadBalancing where
  enabled := if "enabled" ∈ listed then loadBalancing.enabled else standard.enabled

theorem follows (loadBalancing : LoadBalancing) :
    shape.Follows loadBalancing.entries loadBalancing.overlay where
  distinct := by decide
  blank := rfl
  fields := .cons (Field.follows rfl rfl (fun _ => BooleanText.reads) (by simp [overlay])) .nil

theorem reads (loadBalancing : LoadBalancing) {names : List String} {text : List Char}
    (shown : ObjectText loadBalancing.entries names text) :
    Reads shape.read text (loadBalancing.overlay names) :=
  loadBalancing.follows.reads_optional shown (by decide)

end LoadBalancing

namespace Coordination

def entries (coordination : Coordination) : List Entry := [
  ⟨"tick_rate_hz", IntegerText coordination.tickRate.toNat⟩,
  ⟨"ticks", IntegerText coordination.ticks.toNat⟩,
  ⟨"rescan_interval_ticks", IntegerText coordination.rescanInterval.toNat⟩,
  ⟨"realtime", BooleanText coordination.realtime⟩]

def overlay (coordination : Coordination) (listed : List String) : Coordination where
  tickRate := if "tick_rate_hz" ∈ listed then coordination.tickRate else standard.tickRate
  ticks := if "ticks" ∈ listed then coordination.ticks else standard.ticks
  rescanInterval :=
    if "rescan_interval_ticks" ∈ listed then coordination.rescanInterval else standard.rescanInterval
  realtime := if "realtime" ∈ listed then coordination.realtime else standard.realtime

theorem follows (coordination : Coordination) :
    shape.Follows coordination.entries coordination.overlay where
  distinct := by decide
  blank := rfl
  fields :=
    .cons (Field.follows rfl rfl (fun _ => Format.lawful_uint32.reads_number rfl)
      (by simp [overlay])) <|
    .cons (Field.follows rfl rfl (fun _ => Format.lawful_uint64.reads_number rfl)
      (by simp [overlay])) <|
    .cons (Field.follows rfl rfl (fun _ => Format.lawful_uint64.reads_number rfl)
      (by simp [overlay])) <|
    .cons (Field.follows rfl rfl (fun _ => BooleanText.reads) (by simp [overlay])) .nil

theorem reads (coordination : Coordination) {names : List String} {text : List Char}
    (shown : ObjectText coordination.entries names text) :
    Reads shape.read text (coordination.overlay names) :=
  coordination.follows.reads_optional shown (by decide)

end Coordination

/-! ## What a scenario lists -/

theorem WorkerName.reads {worker : WorkerName} {text : List Char} (shown : Quotes worker.text text) :
    Reads format.read text worker :=
  (Quotes.reads shown).map mk

namespace EntitySeed

def entries (seed : EntitySeed) : List Entry := [
  ⟨"id", IntegerText seed.id.val.toInt⟩,
  ⟨"intent", IntegerText seed.intent.val.toNat⟩,
  ⟨"components", ListText (fun component => IntegerText component.toNat) seed.components⟩]

def overlay (seed : EntitySeed) (listed : List String) : EntitySeed where
  id := if "id" ∈ listed then seed.id else default
  intent := if "intent" ∈ listed then seed.intent else default
  components := if "components" ∈ listed then seed.components else default

theorem follows (seed : EntitySeed) : shape.Follows seed.entries seed.overlay where
  distinct := by decide
  blank := rfl
  fields :=
    .cons (Field.follows rfl rfl (fun _ => EntityId.lawful_format.reads_number rfl)
      (by simp [overlay])) <|
    .cons (Field.follows rfl rfl (fun _ => VirtualWorkerId.lawful_format.reads_number rfl)
      (by simp [overlay])) <|
    .cons (Field.follows rfl rfl
      (fun _ => ListText.reads fun _ _ => ComponentId.lawful_format.reads_number rfl)
      (by simp [overlay])) .nil

theorem reads {seed : EntitySeed} {text : List Char} (shown : RecordText seed.entries text) :
    Reads shape.read text seed :=
  seed.follows.reads_all shown fun names complete => by simp_all [entries, overlay]

end EntitySeed

namespace IntentChange

def entries (change : IntentChange) : List Entry := [
  ⟨"tick", IntegerText change.tick.toNat⟩,
  ⟨"entity", IntegerText change.entity.val.toInt⟩,
  ⟨"intent", IntegerText change.intent.val.toNat⟩]

def overlay (change : IntentChange) (listed : List String) : IntentChange where
  tick := if "tick" ∈ listed then change.tick else default
  entity := if "entity" ∈ listed then change.entity else default
  intent := if "intent" ∈ listed then change.intent else default

theorem follows (change : IntentChange) : shape.Follows change.entries change.overlay where
  distinct := by decide
  blank := rfl
  fields :=
    .cons (Field.follows rfl rfl (fun _ => Format.lawful_uint64.reads_number rfl)
      (by simp [overlay])) <|
    .cons (Field.follows rfl rfl (fun _ => EntityId.lawful_format.reads_number rfl)
      (by simp [overlay])) <|
    .cons (Field.follows rfl rfl (fun _ => VirtualWorkerId.lawful_format.reads_number rfl)
      (by simp [overlay])) .nil

theorem reads {change : IntentChange} {text : List Char} (shown : RecordText change.entries text) :
    Reads shape.read text change :=
  change.follows.reads_all shown fun names complete => by simp_all [entries, overlay]

end IntentChange

namespace WorkerRestart

def entries (restart : WorkerRestart) : List Entry := [
  ⟨"tick", IntegerText restart.tick.toNat⟩,
  ⟨"worker", Quotes restart.worker.text⟩]

def overlay (restart : WorkerRestart) (listed : List String) : WorkerRestart where
  tick := if "tick" ∈ listed then restart.tick else default
  worker := if "worker" ∈ listed then restart.worker else default

theorem follows (restart : WorkerRestart) : shape.Follows restart.entries restart.overlay where
  distinct := by decide
  blank := rfl
  fields :=
    .cons (Field.follows rfl rfl (fun _ => Format.lawful_uint64.reads_number rfl)
      (by simp [overlay])) <|
    .cons (Field.follows rfl rfl (fun _ => WorkerName.reads) (by simp [overlay])) .nil

theorem reads {restart : WorkerRestart} {text : List Char}
    (shown : RecordText restart.entries text) : Reads shape.read text restart :=
  restart.follows.reads_all shown fun names complete => by simp_all [entries, overlay]

end WorkerRestart

namespace Scenario

def entries (scenario : Scenario) : List Entry := [
  ⟨"workers", ListText (Quotes ·.text) scenario.workers⟩,
  ⟨"entities", ListText (RecordText ·.entries) scenario.entities⟩,
  ⟨"intent_changes", ListText (RecordText ·.entries) scenario.intentChanges⟩,
  ⟨"restarts", ListText (RecordText ·.entries) scenario.restarts⟩]

/-- The lists that are listed; the others are empty. -/
def overlay (scenario : Scenario) (listed : List String) : Scenario where
  workers := if "workers" ∈ listed then scenario.workers else []
  entities := if "entities" ∈ listed then scenario.entities else []
  intentChanges := if "intent_changes" ∈ listed then scenario.intentChanges else []
  restarts := if "restarts" ∈ listed then scenario.restarts else []

theorem follows (scenario : Scenario) : shape.Follows scenario.entries scenario.overlay where
  distinct := by decide
  blank := rfl
  fields :=
    .cons (Field.follows rfl rfl (fun _ => ListText.reads fun _ _ => WorkerName.reads)
      (by simp [overlay])) <|
    .cons (Field.follows rfl rfl (fun _ => ListText.reads fun _ _ => EntitySeed.reads)
      (by simp [overlay])) <|
    .cons (Field.follows rfl rfl (fun _ => ListText.reads fun _ _ => IntentChange.reads)
      (by simp [overlay])) <|
    .cons (Field.follows rfl rfl (fun _ => ListText.reads fun _ _ => WorkerRestart.reads)
      (by simp [overlay])) .nil

theorem reads (scenario : Scenario) {names : List String} {text : List Char}
    (manned : "workers" ∈ names) (shown : ObjectText scenario.entries names text) :
    Reads shape.read text (scenario.overlay names) := by
  have required : ∀ field ∈ shape.fields, field.required = true → field.name = "workers" := by decide
  refine scenario.follows.reads shown fun field member given => ?_
  rw [required field member given]
  exact manned

end Scenario

/-! ## Settings -/

namespace Settings

/-- The fields that a text lists, at the top and in each of its objects. -/
structure Listing where
  top : List String
  loadBalancing : List String
  coordination : List String
  scenario : List String

/-- A scenario must list its workers. -/
def entries (settings : Settings) (listing : Listing) : List Entry := [
  ⟨"log_level", Quotes settings.logLevel⟩,
  ⟨"load_balancing", ObjectText settings.loadBalancing.entries listing.loadBalancing⟩,
  ⟨"coordination", ObjectText settings.coordination.entries listing.coordination⟩,
  ⟨"scenario", fun text => "workers" ∈ listing.scenario ∧
    ObjectText settings.scenario.entries listing.scenario text⟩]

/-- What is listed, and standard values for the rest. -/
def overlay (settings : Settings) (listing : Listing) (listed : List String) : Settings where
  logLevel := if "log_level" ∈ listed then settings.logLevel else standard.logLevel
  loadBalancing :=
    if "load_balancing" ∈ listed then settings.loadBalancing.overlay listing.loadBalancing
    else .standard
  coordination :=
    if "coordination" ∈ listed then settings.coordination.overlay listing.coordination
    else .standard
  scenario :=
    if "scenario" ∈ listed then settings.scenario.overlay listing.scenario else .standard

theorem follows (settings : Settings) (listing : Listing) :
    shape.Follows (settings.entries listing) (settings.overlay listing) where
  distinct := by decide
  blank := rfl
  fields :=
    .cons (Field.follows rfl rfl (fun _ => Quotes.reads) (by simp [overlay])) <|
    .cons (Field.follows rfl rfl (fun _ => settings.loadBalancing.reads) (by simp [overlay])) <|
    .cons (Field.follows rfl rfl (fun _ => settings.coordination.reads) (by simp [overlay])) <|
    .cons (Field.follows rfl rfl (fun _ shown => settings.scenario.reads shown.1 shown.2)
      (by simp [overlay])) .nil

/-- Settings are read from any text of an object that lists some of their fields, each at most once
and in any order, with any JSON under other names between them, and so on in each of its objects: what
is listed is as in the settings, and the rest has its standard value. -/
theorem ofText_overlay (settings : Settings) (listing : Listing) {before text after : List Char}
    (shown : ObjectText (settings.entries listing) listing.top text) (left : Blank before)
    (right : Blank after) :
    ofText (.ofList (before ++ (text ++ after))) = .ok (settings.overlay listing listing.top) :=
  ((settings.follows listing).reads_optional shown (by decide)).decode left right

/-- A text with the fields in another order, and between them a list that nobody asks for, with half
of a surrogate pair in it. -/
theorem ofText_overlay_nested :
    ofText (" \x7b\"x\": [\x7b\"y\": \"\\ud800\"\x7d], \"scenario\": \x7b\"z\": null, " ++
      "\"workers\": [\"A\"]\x7d, \"log_level\": \"all\"\x7d") =
        .ok ⟨"all", .standard, .standard, { Scenario.blank with workers := [⟨"A"⟩] }⟩ := by
  let settings : Settings := ⟨"all", .standard, .standard, ⟨[⟨"A"⟩], [], [], []⟩⟩
  let listing : Listing := ⟨["scenario", "log_level"], [], [], ["workers"]⟩
  let member (name : String) (value : List Char) : Member :=
    ⟨stringLiteral name, [], [' '], value, blank_nil, blank_space⟩
  -- what nobody asks for
  have half : StringText ['"', '\\', 'u', 'd', '8', '0', '0', '"'] :=
    ⟨[['\\', 'u', 'd', '8', '0', '0']], by simpa using .unit (.digits rfl rfl rfl rfl), rfl⟩
  have name : StringText (stringLiteral "y") :=
    ⟨[['y']], by simpa using .plain (by decide) (by decide) (by decide), rfl⟩
  have object := @Valid.object [member "y" _] _ (.cons (.first blank_nil) (.nil blank_nil))
    (by simpa [member] using name) (by simpa [member] using .string half)
  have list := @Valid.list [_] _ (.cons (.first blank_nil) (.nil blank_nil)) (by simpa using object)
  -- what is listed
  have workers : ListText (Quotes ·.text) settings.scenario.workers _ :=
    ⟨[stringLiteral "A"], _, .cons (quotes_stringLiteral "A") .nil,
      .cons (.first blank_nil) (.nil blank_nil), rfl⟩
  have scenario : ObjectText settings.scenario.entries ["workers"] _ :=
    ⟨by decide, [member "z" _, member "workers" _], _,
      .other (by decide) (quotes_stringLiteral "z") .null
        (.entry List.mem_cons_self (quotes_stringLiteral _) workers .nil),
      .cons (.first blank_nil) (.cons (.later blank_nil blank_space) (.nil blank_nil)), rfl⟩
  have shown : ObjectText (settings.entries listing) listing.top _ :=
    ⟨by decide, [member "x" _, member "scenario" _, member "log_level" (stringLiteral "all")], _,
      .other (by decide) (quotes_stringLiteral "x") list
        (.entry (.tail _ (.tail _ (.tail _ (.head _)))) (quotes_stringLiteral _)
          ⟨by decide, scenario⟩
          (.entry (.head _) (quotes_stringLiteral _) (quotes_stringLiteral "all") .nil)),
      .cons (.first blank_nil) (.cons (.later blank_nil blank_space)
        (.cons (.later blank_nil blank_space) (.nil blank_nil))), rfl⟩
  have read := ofText_overlay settings listing shown blank_space blank_nil
  refine (congrArg ofText ?_).trans (read.trans ?_)
  · decide +kernel
  · decide +kernel

end Settings

end Handover
