import Handover.CommandLine.Run

/-! # The command

Reads the arguments, the settings file they name and the environment, and prints what the run of the
command prints.
-/

open Handover.CommandLine

def main (arguments : List String) : IO UInt32 := do
  let environment ← IO.getEnv "RUST_LOG"
  let file ← match Command.ofArguments arguments with
    | .ok (.simulate { settings := some path, .. }) =>
      try pure (String.fromUTF8? (← IO.FS.readBinFile path))
      catch _ => pure none
    | _ => pure none
  let outcome := run arguments (fun _ => file) environment
  outcome.output.forM IO.println
  outcome.errors.forM IO.eprintln
  return outcome.exitCode
