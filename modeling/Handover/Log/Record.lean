/-! # Log records

A record has a severity, the part of the program it comes from, a message and named values.  Its text
is the message followed by the values as `name=value`, each after one blank.
-/

namespace Handover.Log

/-- How serious a record is, most serious first. -/
inductive Level where
  | error
  | warn
  | info
  | debug
  | trace
deriving DecidableEq

namespace Level

def label : Level → String
  | error => "ERROR"
  | warn => "WARN"
  | info => "INFO"
  | debug => "DEBUG"
  | trace => "TRACE"

/-- Place in the order of detail: an error is 1, a trace is 5. -/
def detail : Level → Nat
  | error => 1
  | warn => 2
  | info => 3
  | debug => 4
  | trace => 5

end Level

structure Record where
  level : Level
  /-- The part of the program that reports. -/
  target : String
  message : String
  /-- Named values, in the order they are written. -/
  fields : List (String × String)
deriving DecidableEq

namespace Record

/-- The message and the named values. -/
def text (record : Record) : String :=
  record.message ++ String.join (record.fields.map fun (name, value) => s!" {name}={value}")

/-- Whether the record has a value of the given name.  The message counts as one. -/
def has (record : Record) (name : String) : Bool :=
  name = "message" ∨ name ∈ record.fields.map (·.1)

/-- The text after its severity. -/
def entry (record : Record) : String := s!"{record.level.label} {record.text}"

/-- The line of a log: severity in five columns on the right, source, text. -/
def line (record : Record) : String :=
  let label := record.level.label
  let padding := String.ofList (List.replicate (5 - label.length) ' ')
  s!"{padding}{label} {record.target}: {record.text}"

end Record

end Handover.Log
