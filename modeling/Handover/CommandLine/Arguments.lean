import Handover.Text.ControlSequence

/-! # Arguments

The command takes options only.  `--settings` and `--ticks` need a value, which follows as the next
argument or after an equals sign; the other options take none.  Arguments are looked at from left to
right, and the first problem is reported.  A value that stands in an argument of its own is taken up
only when the next known option or the end is reached, so that an argument nobody knows is noticed
before a bad value to its left.

A problem quotes what the user wrote as far as it is visible, so that no argument can steer the terminal.
-/

namespace Handover.CommandLine

open Text (visible)

/-- The options that take a value. -/
inductive Setting where
  | settings
  | ticks
deriving DecidableEq

def Setting.title : Setting → String
  | settings => "--settings <SETTINGS>"
  | ticks => "--ticks <TICKS>"

/-- The options that take no value. -/
inductive Switch where
  | printSettings
  | help
  | version
deriving DecidableEq

def Switch.title : Switch → String
  | printSettings => "--print-settings"
  | help => "--help"
  | version => "--version"

inductive CountError where
  | empty
  | invalidDigit
  | tooLarge
deriving DecidableEq

def CountError.message : CountError → String
  | empty => "cannot parse integer from empty string"
  | invalidDigit => "invalid digit found in string"
  | tooLarge => "number too large to fit in target type"

inductive UsageError where
  | unexpected (argument : String)
  | invalidTicks (value : String) (error : CountError)
  | missingValue (setting : Setting)
  | repeatedSetting (setting : Setting)
  | repeatedSwitch (switch : Switch)
  | unneededValue (value : String) (switch : Switch)
deriving DecidableEq

def UsageError.message : UsageError → String
  | unexpected argument => s!"unexpected argument '{visible argument}' found"
  | invalidTicks value error =>
    s!"invalid value '{visible value}' for '{Setting.ticks.title}': {error.message}"
  | missingValue setting =>
    s!"a value is required for '{setting.title}' but none was supplied"
  | repeatedSetting setting =>
    s!"the argument '{setting.title}' cannot be used multiple times"
  | repeatedSwitch switch =>
    s!"the argument '{switch.title}' cannot be used multiple times"
  | unneededValue value switch =>
    s!"unexpected value '{visible value}' for '{switch.title}' found; no more were expected"

structure Options where
  /-- The file with the settings; the standard ones apply without it. -/
  settings : Option String
  /-- How many ticks to run instead of what the settings say. -/
  ticks : Option UInt64
  /-- Print the settings instead of running. -/
  printSettings : Bool
deriving DecidableEq

inductive Command where
  | help
  | version
  | simulate (options : Options)
deriving DecidableEq

/-! ## Values -/

/-- The digits of a count, of at most 64 bits, given the count of the digits before. -/
def countDigits (count : Nat) : List Char → Except CountError UInt64
  | [] => .ok (.ofNat count)
  | c :: cs =>
    if !c.isDigit then .error .invalidDigit
    else
      let count := count * 10 + (c.toNat - '0'.toNat)
      if count < UInt64.size then countDigits count cs else .error .tooLarge

/-- A count, with an optional plus sign. -/
def readCount (text : String) : Except CountError UInt64 :=
  match text.toList with
  | [] => .error .empty
  | ['+'] => .error .invalidDigit
  | '+' :: cs => countDigits 0 cs
  | cs => countDigits 0 cs

def Options.set (options : Options) (setting : Setting) (value : String) :
    Except UsageError Options :=
  match setting with
  | .settings =>
    if options.settings.isSome then .error (.repeatedSetting .settings)
    else if value = "" then .error (.missingValue .settings)
    else .ok { options with settings := some value }
  | .ticks =>
    if options.ticks.isSome then .error (.repeatedSetting .ticks)
    else match readCount value with
      | .ok ticks => .ok { options with ticks := some ticks }
      | .error error => .error (.invalidTicks value error)

/-! ## Arguments -/

/-- An option that waits for its value, or whose value was not taken up yet. -/
inductive Pending where
  | nothing
  | awaiting (setting : Setting)
  | holding (setting : Setting) (value : String)
deriving DecidableEq

def Options.settle (options : Options) : Pending → Except UsageError Options
  | .nothing => .ok options
  | .awaiting setting => .error (.missingValue setting)
  | .holding setting value => options.set setting value

inductive Shape where
  /-- Two dashes alone end the options. -/
  | endOfOptions
  | long (name : String) (value : Option String)
  | short (letter : Char)
  | plain
deriving DecidableEq

def Shape.ofArgument (argument : String) : Shape :=
  match argument.toList with
  | ['-', '-'] => endOfOptions
  | '-' :: '-' :: cs =>
    match cs.span (· ≠ '=') with
    | (name, []) => long (.ofList name) none
    | (name, _ :: value) => long (.ofList name) (some (.ofList value))
  | '-' :: c :: _ => short c
  | _ => plain

def longOption? : String → Option (Setting ⊕ Switch)
  | "settings" => some (.inl .settings)
  | "ticks" => some (.inl .ticks)
  | "print-settings" => some (.inr .printSettings)
  | "help" => some (.inr .help)
  | "version" => some (.inr .version)
  | _ => none

def shortOption? : Char → Option Switch
  | 'h' => some .help
  | 'V' => some .version
  | _ => none

/-- Reads the arguments that are left, given the options so far and what is pending. -/
def read (options : Options) (pending : Pending) : List String → Except UsageError Command
  | [] => return .simulate (← options.settle pending)
  | argument :: arguments =>
    match Shape.ofArgument argument with
    | .endOfOptions =>
      match arguments with
      | [] => return .simulate (← options.settle pending)
      | next :: _ => throw (.unexpected next)
    | .long name value =>
      match longOption? name, value with
      | none, _ => throw (.unexpected s!"--{name}")
      | some (.inr switch), some value => throw (.unneededValue value switch)
      | some (.inr switch), none => do turn (← options.settle pending) switch arguments
      | some (.inl setting), none => do read (← options.settle pending) (.awaiting setting) arguments
      | some (.inl setting), some value => do
        read (← (← options.settle pending).set setting value) .nothing arguments
    | .short letter =>
      match shortOption? letter with
      | none => throw (.unexpected s!"-{letter}")
      | some switch => do turn (← options.settle pending) switch arguments
    | .plain =>
      match pending with
      | .awaiting setting => read options (.holding setting argument) arguments
      | _ => throw (.unexpected argument)
where
  /-- Acts on a switch and reads on. -/
  turn (options : Options) (switch : Switch) (arguments : List String) :
      Except UsageError Command :=
    match switch with
    | .help => return .help
    | .version => return .version
    | .printSettings =>
      if options.printSettings then throw (.repeatedSwitch .printSettings)
      else read { options with printSettings := true } .nothing arguments

def Command.ofArguments (arguments : List String) : Except UsageError Command :=
  read ⟨none, none, false⟩ .nothing arguments

end Handover.CommandLine
