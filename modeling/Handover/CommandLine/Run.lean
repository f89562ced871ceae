import Handover.Cluster.Run
import Handover.CommandLine.Arguments
import Handover.Log.Filter
import Handover.Settings.Schema

/-! # Running a command

What the command prints, and how it ends, as a function of its arguments, the settings file they name,
and the log filter of the environment.  The simulation reports to standard output; a failure goes to
standard error and leaves standing what was printed before.
-/

namespace Handover

def version : String := "0.1.0"

namespace CommandLine

structure Outcome where
  exitCode : UInt32
  output : List String
  errors : List String
deriving DecidableEq

/-! ## Failures -/

/-- Why a command fails after its arguments were understood. -/
inductive Failure where
  | unreadable (path : String)
  | invalidSettings (path : String)
  | invalidLogLevel
  | setup (error : SetupError)
  /-- The log filter falls apart inside of a character. -/
  | brokenLogFilter
deriving DecidableEq

def Failure.message : Failure → String
  | unreadable path => s!"failed to read settings from {path}"
  | invalidSettings path => s!"invalid settings in {path}"
  | invalidLogLevel => "invalid log level in settings"
  | setup error => error.message
  | brokenLogFilter => "the log filter is split inside of a character"

namespace Outcome

def success (output : List String) : Outcome := ⟨0, output, []⟩

/-- A command that fails after printing something.  A broken log filter stops the program where it
stands, and an empty line sets off what is said about it. -/
def failure (output : List String) (failure : Failure) : Outcome :=
  match failure with
  | .brokenLogFilter => ⟨101, output, ["", failure.message]⟩
  | _ => ⟨1, output, [s!"Error: {failure.message}"]⟩

def usage (error : UsageError) : Outcome :=
  ⟨2, [], [s!"error: {error.message}", "", "Usage: latch [OPTIONS]", "",
    "For more information, try '--help'."]⟩

end Outcome

def helpText : List String := [
  "Simulate load-balanced authority handover between workers",
  "",
  "Usage: latch [OPTIONS]",
  "",
  "Options:",
  "      --settings <SETTINGS>  JSON settings file; built-in defaults when omitted",
  "      --ticks <TICKS>        Override the number of coordination ticks to run",
  "      --print-settings       Print the effective settings as JSON and exit",
  "  -h, --help                 Print help",
  "  -V, --version              Print version"]

/-! ## The report of a run -/

/-- Something the program itself reports. -/
def reportRecord (level : Log.Level) (message : String) (fields : List (String × String)) :
    Log.Record :=
  ⟨level, "latch", message, fields⟩

def greeting : Log.Record := reportRecord .info s!"Latch Authority v{version}" []

/-- What a process did during a run. -/
def processRecord (process : Process) : Log.Record :=
  let counts := process.enforcer.counts
  reportRecord .info "Enforcer summary" [
    ("worker", toString process.name),
    ("virtual_worker", toString process.virtualWorker),
    ("queued", toString counts.queued),
    ("emitted", toString counts.requested),
    ("skipped", toString counts.skipped.total),
    ("not_authoritative", toString counts.skipped.notAuthoritative),
    ("unresolved", toString counts.skipped.unresolved)]

/-- Where a run led. -/
def conclusionRecord (coordination : Coordination) (report : Cluster.Report) : Log.Record :=
  if report.converged then
    let time := (coordination.simulatedTime (.ofNat report.ticks)).text
    reportRecord .info s!"All entities owned by their intended worker after {time}"
      [("ticks", toString report.ticks), ("handovers", toString report.handovers)]
  else
    let entities := report.misplaced.map fun entity => s!"EntityId({entity})"
    reportRecord .warn "Some entities are not owned by their intended worker"
      [("ticks", toString report.ticks), ("misplaced", "[" ++ ", ".intercalate entities ++ "]")]

/-! ## Commands -/

/-- The contents of the settings file: nothing if it cannot be read as text. -/
abbrev SettingsFile := Option String

/-- The settings in force: those of the file, with the ticks of the command line. -/
def Options.effective (options : Options) (file : SettingsFile) : Except Failure Settings := do
  let settings ← match options.settings with
    | none => .ok Settings.standard
    | some path =>
      match file with
      | none => .error (.unreadable path)
      | some text =>
        match Settings.ofText text with
        | .ok settings => .ok settings
        | .error _ => .error (.invalidSettings path)
  return match options.ticks with
    | none => settings
    | some ticks => { settings with coordination := { settings.coordination with ticks } }

/-- The filter of the environment, if there is a clear one, and otherwise that of the settings. -/
def filterOf (settings : Settings) (environment : Option String) : Except Failure Log.Filter :=
  let fromSettings : Except Failure Log.Filter :=
    match Log.Filter.ofText settings.logLevel with
    | .ok filter => .ok filter
    | .error .unclear => .error .invalidLogLevel
    | .error .splitCharacter => .error .brokenLogFilter
  match environment.map Log.Filter.ofText with
  | some (.ok filter) => .ok filter
  | some (.error .splitCharacter) => .error .brokenLogFilter
  | some (.error .unclear) | none => fromSettings

def shownLines (filter : Log.Filter) (records : List Log.Record) : List String :=
  (records.filter filter.shows).map (·.line)

def simulation (settings : Settings) (filter : Log.Filter) : Outcome :=
  let start := greeting :: (Cluster.setupEvents settings).map (·.record)
  match Cluster.new settings with
  | .error error => .failure (shownLines filter start) (.setup error)
  | .ok cluster =>
    let turns := cluster.run settings.coordination.ticks.toNat
    let cluster := cluster.after turns
    .success <| shownLines filter <|
      start ++ turns.flatMap (fun turn => turn.events.map (·.record)) ++
        cluster.processes.map processRecord ++
        [conclusionRecord settings.coordination cluster.report]

def Command.run (command : Command) (file : SettingsFile) (environment : Option String) : Outcome :=
  match command with
  | .help => .success helpText
  | .version => .success [s!"latch {Handover.version}"]
  | .simulate options =>
    match options.effective file with
    | .error failure => .failure [] failure
    | .ok settings =>
      if options.printSettings then .success (settings.text.splitToList (· = '\n'))
      else
        match filterOf settings environment with
        | .error failure => .failure [] failure
        | .ok filter => simulation settings filter

/-- Understands the arguments and carries out what they ask for.  `read` gives the text of a file. -/
def run (arguments : List String) (read : String → SettingsFile) (environment : Option String) :
    Outcome :=
  match Command.ofArguments arguments with
  | .error error => .usage error
  | .ok command =>
    let file := match command with
      | .simulate options => options.settings.bind read
      | .help | .version => none
    command.run file environment

end CommandLine

end Handover
