import Handover.Log.Pattern
import Handover.Log.Record
import Handover.Text.Alphanumeric
import Handover.Text.Blank

/-! # Log filters

A filter says which records are shown.  It is a list of directives between commas.  A directive is a
level alone, or the beginning of targets, or a scope in square brackets, or both of these, followed by an
equals sign and a level; without a level everything is shown.  Among the directives that speak for a
record the most specific one decides: first the one with the longest target, then one that asks for a
named value, and of equal ones the last.  A record no directive speaks for is not shown.

Blanks belong to what they stand beside, so a level with a blank around it is a target.  How a directive
is made up is seen without the blanks around it, but its parts are taken from the same places of the text
with them.  So blanks in front displace the parts.
-/

namespace Handover.Log

open Text (isAlphanumeric isBlank)

/-- Which records of its targets a directive speaks for. -/
inductive Scope where
  | all
  /-- Those with a value of the given name. -/
  | having (name : String)
  /-- Those reported inside certain spans of a run.  No run has any. -/
  | spans
deriving DecidableEq

namespace Scope

/-- The name that is asked for: empty if none is. -/
def name : Scope → String
  | having name => name
  | all | spans => ""

def covers (scope : Scope) (record : Record) : Bool :=
  match scope with
  | all => true
  | having name => record.has name
  | spans => false

end Scope

inductive FilterError where
  | unclear
  /-- A displaced part begins or ends inside of a character. -/
  | splitCharacter
deriving DecidableEq

/-- How much is shown of the targets that begin with `target`. -/
structure Directive where
  target : String
  scope : Scope
  /-- The detail of the least serious level that is shown; 0 shows nothing. -/
  detail : Nat
deriving DecidableEq

namespace Directive

/-- A detail given by its number, with an optional plus sign. -/
def detailNumber? (digits : List Char) : Option Nat :=
  let digits := if digits.head? = some '+' then digits.tail else digits
  if digits ≠ [] ∧ digits.all Char.isDigit then
    let detail := digits.foldl (fun n c => 10 * n + (c.toNat - '0'.toNat)) 0
    if detail ≤ Level.trace.detail then some detail else none
  else none

/-- The detail that a level stands for, given by name in any case or by number. -/
def detail? (text : String) : Option Nat :=
  match text.toLower with
  | "off" => some 0
  | "error" => some Level.error.detail
  | "warn" => some Level.warn.detail
  | "info" => some Level.info.detail
  | "debug" => some Level.debug.detail
  | "trace" => some Level.trace.detail
  | _ => detailNumber? text.toList

/-- The characters that a directive may begin with, after blanks. -/
def mayBegin (c : Char) : Bool := isAlphanumeric c ∨ c = '_' ∨ c = ':' ∨ c = '-' ∨ c = '['

/-- The detail after an equals sign, where no level means everything. -/
def givenDetail (level : String) : Except FilterError Nat :=
  if level = "" then .ok Level.trace.detail
  else match detail? level with
    | some detail => .ok detail
    | none => .error .unclear

/-- The scope of a field, which is a name, or a name and a description of its values: those between the
first equals sign and the next. -/
def fieldScope (field : String) : Except FilterError Scope :=
  match field.splitToList (· = '=') with
  | [""] => .error .unclear
  | _ :: values :: _ => if Pattern.describesValues values then .ok .spans else .error .unclear
  | _ => .ok (.having field)

/-- The part of a text between two places, counted in bytes. -/
def part (text : String) (start stop : Nat) : Except FilterError String :=
  let start : String.Pos.Raw := ⟨start⟩
  let stop : String.Pos.Raw := ⟨stop⟩
  if start.isValid text ∧ stop.isValid text then .ok (start.extract text stop)
  else .error .splitCharacter

def bytes (cs : List Char) : Nat := cs.foldl (· + ·.utf8Size) 0

/-- The part of a text that stands where `cs` stands after `before`. -/
def displaced (text : String) (before cs : List Char) : Except FilterError String :=
  part text (bytes before) (bytes before + bytes cs)

/-- Reads a scope after its opening bracket, and gives what is before and after the closing one: the name
of a span, and then perhaps a field in braces. -/
def readScope (text : String) (before cs : List Char) :
    Except FilterError (Scope × List Char × List Char) := do
  match cs.span fun c => c ≠ ']' ∧ c ≠ '\x7b' with
  | (_, []) => throw .unclear
  | (span, bracket :: cs) =>
    let name ← displaced text before span
    let before := before ++ span ++ [bracket]
    if bracket = ']' then return (.spans, before, cs)
    match cs.span (· ≠ '\x7d') with
    | (_, []) => throw .unclear
    | (field, _ :: cs) =>
      let scope ← fieldScope (← displaced text before field)
      match cs with
      | ']' :: cs =>
        return (if name = "" then scope else .spans, before ++ field ++ ['\x7d', ']'], cs)
      | _ => throw .unclear

/-- Reads the end of a directive, which is nothing, or an equals sign and perhaps a level. -/
def readEnding (text : String) (before : List Char) : List Char → Except FilterError Nat
  | [] => .ok Level.trace.detail
  | '=' :: _ => do givenDetail (← part text (bytes before + 1) text.utf8ByteSize)
  | _ => .error .unclear

def ofText (text : String) : Except FilterError Directive := do
  let cs := ((text.toList.dropWhile isBlank).reverse.dropWhile isBlank).reverse
  if !cs.head?.any mayBegin then throw .unclear
  match cs.span fun c => c ≠ '=' ∧ c ≠ '[' with
  | (_, []) =>
    return match detail? text with
      | some detail => ⟨"", .all, detail⟩
      | none => ⟨text, .all, Level.trace.detail⟩
  | (subject, rest) =>
    let target ← displaced text [] subject
    let (scope, before, rest) ← match rest with
      | '[' :: cs => readScope text (subject ++ ['[']) cs
      | _ => pure (.all, subject, rest)
    return ⟨target, scope, ← readEnding text before rest⟩

def covers (directive : Directive) (record : Record) : Bool :=
  directive.target.toList.isPrefixOf record.target.toList ∧ directive.scope.covers record

/-- Whether a later directive decides instead of this one where both speak for a record. -/
def yieldsTo (directive later : Directive) : Bool :=
  directive.target.length < later.target.length ∨
    directive.target.length = later.target.length ∧ directive.scope.name ≤ later.scope.name

end Directive

/-- The directives of a filter, in the order they were given. -/
structure Filter where
  directives : List Directive
deriving DecidableEq

namespace Filter

def errorsOnly : Filter := ⟨[⟨"", .all, Level.error.detail⟩]⟩

/-- Reads a filter; its first directive that is none tells why it is not one. -/
def ofText (text : String) : Except FilterError Filter := do
  let parts := (text.splitToList (· = ',')).filter (· ≠ "")
  if parts = [] then return errorsOnly
  return ⟨← parts.mapM Directive.ofText⟩

def deciding? (filter : Filter) (record : Record) : Option Directive :=
  (filter.directives.filter (·.covers record)).foldl
    (fun best directive => match best with
      | some b => if b.yieldsTo directive then some directive else some b
      | none => some directive) none

def shows (filter : Filter) (record : Record) : Bool :=
  match filter.deciding? record with
  | some directive => record.level.detail ≤ directive.detail
  | none => false

end Filter

end Handover.Log
