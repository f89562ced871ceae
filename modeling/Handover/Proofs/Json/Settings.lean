import Handover.CommandLine.Run
import Handover.Proofs.Json.Data
import Mathlib.Data.String.Basic

namespace Handover

open Json

/-! ## Formats -/

theorem LoadBalancing.lawful_format : LoadBalancing.shape.format.Lawful :=
  Record.lawful (by decide) fun _ => .cons (Field.readsBack_optional Format.lawful_boolean) .nil

theorem Coordination.lawful_format : Coordination.shape.format.Lawful :=
  Record.lawful (by decide) fun _ =>
    .cons (Field.readsBack_optional Format.lawful_uint32) <|
    .cons (Field.readsBack_optional Format.lawful_uint64) <|
    .cons (Field.readsBack_optional Format.lawful_uint64) <|
    .cons (Field.readsBack_optional Format.lawful_boolean) .nil

theorem EntitySeed.lawful_format : EntitySeed.shape.format.Lawful :=
  Record.lawful (by decide) fun _ =>
    .cons (Field.readsBack_mandatory EntityId.lawful_format) <|
    .cons (Field.readsBack_mandatory VirtualWorkerId.lawful_format) <|
    .cons (Field.readsBack_mandatory ComponentId.lawful_format.list) .nil

theorem IntentChange.lawful_format : IntentChange.shape.format.Lawful :=
  Record.lawful (by decide) fun _ =>
    .cons (Field.readsBack_mandatory Format.lawful_uint64) <|
    .cons (Field.readsBack_mandatory EntityId.lawful_format) <|
    .cons (Field.readsBack_mandatory VirtualWorkerId.lawful_format) .nil

theorem WorkerRestart.lawful_format : WorkerRestart.shape.format.Lawful :=
  Record.lawful (by decide) fun _ =>
    .cons (Field.readsBack_mandatory Format.lawful_uint64) <|
    .cons (Field.readsBack_mandatory WorkerName.lawful_format) .nil

theorem Scenario.lawful_format : Scenario.shape.format.Lawful :=
  Record.lawful (by decide) fun _ =>
    .cons (Field.readsBack_mandatory WorkerName.lawful_format.list) <|
    .cons (Field.readsBack_optional EntitySeed.lawful_format.list) <|
    .cons (Field.readsBack_optional IntentChange.lawful_format.list) <|
    .cons (Field.readsBack_optional WorkerRestart.lawful_format.list) .nil

namespace Settings

theorem lawful_format : format.Lawful :=
  Record.lawful (by decide) fun _ =>
    .cons (Field.readsBack_optional Format.lawful_text) <|
    .cons (Field.readsBack_optional LoadBalancing.lawful_format) <|
    .cons (Field.readsBack_optional Coordination.lawful_format) <|
    .cons (Field.readsBack_optional Scenario.lawful_format) .nil

theorem ofText_text_append (settings : Settings) {blank : List Char} (empty : Blank blank) :
    ofText (settings.text ++ .ofList blank) = .ok settings := by
  rw [text, indented, ← String.ofList_append]
  exact (lawful_format settings).decode Layout.plain_indented empty

theorem ofText_text (settings : Settings) : ofText settings.text = .ok settings := by
  simpa using settings.ofText_text_append blank_nil

end Settings

/-! ## Lines -/

namespace CommandLine

/-- What goes to the standard output: the lines of an outcome, each with its end. -/
def Outcome.printed (outcome : Outcome) : String := String.join (outcome.output.map (· ++ "\n"))

theorem flatMap_splitOnP (cs : List Char) :
    (cs.splitOnP (· = '\n')).flatMap (· ++ ['\n']) = cs ++ ['\n'] := by
  induction cs with
  | nil => rfl
  | cons c cs ih =>
    rw [List.splitOnP_cons_eq_if_modifyHead]
    cases lines : cs.splitOnP (· = '\n') with
    | nil => exact absurd lines (List.splitOnP_ne_nil _ cs)
    | cons line lines' =>
      rw [lines] at ih
      -- a line end opens a new line, any other character stands at the front of the first one
      split
      case isTrue here =>
        obtain rfl : c = '\n' := by simpa using here
        rw [List.flatMap_cons, ih]
        rfl
      case isFalse =>
        rw [List.modifyHead_cons, List.flatMap_cons, List.cons_append, List.cons_append,
          List.cons_append, ← ih, List.flatMap_cons]

theorem printed_success (text : String) :
    (Outcome.success (text.splitToList (· = '\n'))).printed = text ++ "\n" := by
  rw [← String.toList_inj, Outcome.printed, Outcome.success, String.splitToList_of_valid,
    String.toList_join, List.map_map, List.flatMap_map, String.toList_append]
  have lines := flatMap_splitOnP text.toList
  simpa using lines

/-! ## Reloading -/

/-- The text of any settings is read back as those settings.  So what the command prints for the
settings in force, stored in a file, puts the same settings in force without any override, and the
simulation is the same. -/
theorem printed_settings_reload :
    (∀ settings : Settings, Settings.ofText settings.text = .ok settings) ∧
    ∀ (options : Options) (file : SettingsFile) (settings : Settings) (environment : Option String)
      (path : String), options.effective file = .ok settings →
      let printing := (Command.simulate { options with printSettings := true }).run file environment
      let reloading : Options := { options with settings := some path, ticks := none }
      printing.exitCode = 0 ∧ printing.errors = [] ∧
      reloading.effective (some printing.printed) = .ok settings ∧
      ∀ environment, (Command.simulate reloading).run (some printing.printed) environment =
        (Command.simulate options).run file environment := by
  refine ⟨Settings.ofText_text, ?_⟩
  intro options file settings environment path effective printing reloading
  have same : printing = .success (settings.text.splitToList (· = '\n')) := by
    have asked : Options.effective { options with printSettings := true } file = .ok settings :=
      effective
    simp only [printing, Command.run, asked, if_true]
  have text : printing.printed = settings.text ++ "\n" := by rw [same, printed_success]
  have read : Settings.ofText printing.printed = .ok settings := by
    have ends : Blank ['\n'] := by simp [Blank, Decoder.isBlank]
    rw [text]
    exact settings.ofText_text_append ends
  have reloaded : reloading.effective (some printing.printed) = .ok settings := by
    simp only [reloading, Options.effective, read]
    rfl
  refine ⟨by rw [same]; rfl, by rw [same]; rfl, reloaded, fun environment => ?_⟩
  simp only [Command.run, reloaded, effective, reloading]

/-- A file that says little, and an override of its ticks. -/
theorem printed_settings_reload_ticks :
    let options : Options := ⟨some "settings.json", some 5, false⟩
    let file : SettingsFile := some "\x7b\"coordination\": \x7b\"ticks\": 9\x7d\x7d"
    let printing := (Command.simulate { options with printSettings := true }).run file none
    options.effective file =
      .ok { Settings.standard with coordination := { Coordination.standard with ticks := 5 } } ∧
    (Command.simulate ⟨some "printed.json", none, false⟩).run (some printing.printed) none =
      (Command.simulate options).run file none := by
  intro options file printing
  have effective : options.effective file =
      .ok { Settings.standard with coordination := { Coordination.standard with ticks := 5 } } := by
    decide +kernel
  exact ⟨effective,
    (printed_settings_reload.2 options file _ none "printed.json" effective).2.2.2 none⟩

end CommandLine

end Handover
