import Handover.Json.Numeral
import Handover.Json.StringLiteral

/-! # Reading JSON

A text is read once from left to right straight into the value it stands for, and the first thing that
does not fit is the error: what comes later in the text is not looked at any more.  The steps below
read the parts that all shapes are made of.

A value nobody asks for is skipped.  Its brackets, strings and numbers must be well-formed, but numbers
may be of any size and strings may hold halves of surrogate pairs.
-/

namespace Handover.Json.Decoder

/-! ## Characters -/

def isBlank (c : Char) : Bool := c = ' ' ∨ c = '\n' ∨ c = '\t' ∨ c = '\r'

/-- The first character that is not blank.  Blanks before it are gone, the character stays. -/
def peek : Decoder Char := fun input =>
  match input.dropWhile isBlank with
  | [] => .error .truncated
  | c :: rest => .ok (c, c :: rest)

def advance : Decoder Unit := modify List.tail

/-- Passes a character that must come next, after blanks. -/
def expect (c : Char) : Decoder Unit := do
  if (← peek) = c then advance else throw .malformed

def literal : List Char → Decoder Unit
  | [] => return
  | c :: cs => do
    match ← get with
    | [] => throw .truncated
    | d :: rest => if d = c then do set rest; literal cs else throw .malformed

def startsNumeral (c : Char) : Bool := c = '-' ∨ c.isDigit

/-! ## Values of the wrong type -/

/-- What stands at the front.  Brackets are not looked into. -/
def found : Decoder Found := do
  match ← peek with
  | 'n' => advance; literal ['u', 'l', 'l']; return .null
  | 't' => advance; literal ['r', 'u', 'e']; return .boolean true
  | 'f' => advance; literal ['a', 'l', 's', 'e']; return .boolean false
  | '"' => advance; return .text (← string)
  | '[' => return .sequence
  | '\x7b' => return .map
  | c => if startsNumeral c then return .numeral (← Numeral.read) else throw .malformed

/-- Refuses what stands at the front. -/
def wrongType {α : Type} (expected : String) : Decoder α := do
  throw (.mismatch (.wrongType (← found) expected))

/-! ## Simple values -/

/-- A whole number that the target type has. -/
def integer {α : Type} (expected : String) (ofInt? : Int → Option α) : Decoder α := do
  if startsNumeral (← peek) then
    match ← Numeral.read with
    | .integer z =>
      match ofInt? z with
      | some a => return a
      | none => throw (.mismatch (.wrongValue (.numeral (.integer z)) expected))
    | numeral => throw (.mismatch (.wrongType (.numeral numeral) expected))
  else wrongType expected

def text : Decoder String := do
  match ← peek with
  | '"' => advance; string
  | _ => wrongType "a string"

def boolean : Decoder Bool := do
  match ← peek with
  | 't' => advance; literal ['r', 'u', 'e']; return true
  | 'f' => advance; literal ['a', 'l', 's', 'e']; return false
  | _ => wrongType "a boolean"

def null : Decoder Unit := do
  match ← peek with
  | 'n' => advance; literal ['u', 'l', 'l']
  | _ => wrongType "unit"

/-! ## Lists -/

/-- Moves to the next item of a list, if there is one; the closing bracket stays. -/
def hasItem (first : Bool) : Decoder Bool := do
  match ← peek with
  | ']' => return false
  | ',' =>
    if first then return true
    advance
    if (← peek) = ']' then throw .malformed
    return true
  | _ => if first then return true else throw .malformed

/-- The remaining items of a list, at most as many as the last argument says. -/
def items {α : Type} (item : Decoder α) (first : Bool) : Nat → Decoder (List α)
  | 0 => throw .truncated
  | fuel + 1 => do
    if ← hasItem first then
      let x ← item
      let xs ← items item false fuel
      return x :: xs
    else return []

/-- A list of any length.  Every item takes at least one character. -/
def listOf {α : Type} (item : Decoder α) : Decoder (List α) := do
  match ← peek with
  | '[' =>
    advance
    let xs ← items item true ((← get).length + 1)
    expect ']'
    return xs
  | _ => wrongType "a sequence"

/-! ## Objects -/

/-- Moves to the quote that opens the next name of an object, if there is one; the closing bracket
stays. -/
def hasMember (first : Bool) : Decoder Bool := do
  match ← peek with
  | '\x7d' => return false
  | ',' =>
    if first then throw .malformed
    advance
    if (← peek) = '"' then return true else throw .malformed
  | c => if first ∧ c = '"' then return true else throw .malformed

/-- The remaining members of an object, at most as many as the last argument says, gathered from left
to right.  `name` reads a name from its quote on, `value` the rest of a member from its colon on. -/
def members {κ σ : Type} (name : Decoder κ) (value : σ → κ → Decoder σ) (first : Bool) (s : σ) :
    Nat → Decoder σ
  | 0 => throw .truncated
  | fuel + 1 => do
    if ← hasMember first then
      let s ← value s (← name)
      members name value false s fuel
    else return s

/-- The members of an object after its opening bracket, up to the closing one.  Every member takes at
least one character. -/
def allMembers {κ σ : Type} (name : Decoder κ) (value : σ → κ → Decoder σ) (s : σ) : Decoder σ := do
  members name value true s ((← get).length + 1)

def name : Decoder String := do advance; string

def numericName {α : Type} (number : Decoder α) : Decoder α := do
  advance
  match (← get).head?.filter startsNumeral with
  | none => throw .malformed
  | some _ =>
    let n ← number
    match ← get with
    | '"' :: rest => set rest; return n
    | _ => throw .malformed

/-- An object whose names are numbers, as the list of its members. -/
def mapOf {κ α : Type} (number : Decoder κ) (value : Decoder α) : Decoder (List (κ × α)) := do
  match ← peek with
  | '\x7b' =>
    advance
    let rows ← allMembers (numericName number) (fun rows k => do
      expect ':'
      return rows ++ [(k, ← value)]) []
    expect '\x7d'
    return rows
  | _ => wrongType "a map"

/-! ## Skipping -/

def skipDigits : Decoder Unit := do
  let (ds, rest) := (← get).span Char.isDigit
  if ds = [] then throw .malformed
  set rest

def skipExponent : Decoder Unit := do
  match ← get with
  | 'e' :: '+' :: rest | 'E' :: '+' :: rest | 'e' :: '-' :: rest | 'E' :: '-' :: rest
  | 'e' :: rest | 'E' :: rest => set rest; skipDigits
  | _ => return

def skipNumeral : Decoder Unit := do
  if (← get).head? = some '-' then advance
  match ← get with
  | '0' :: rest =>
    if (rest.head?.filter Char.isDigit).isSome then throw .malformed
    set rest
  | _ => skipDigits
  match ← get with
  | '.' :: rest => set rest; skipDigits
  | _ => pure ()
  skipExponent

mutual

/-- Passes a value; the argument bounds the number of steps. -/
def skipValue : Nat → Decoder Unit
  | 0 => throw .truncated
  | fuel + 1 => do
    match ← peek with
    | 'n' => advance; literal ['u', 'l', 'l']
    | 't' => advance; literal ['r', 'u', 'e']
    | 'f' => advance; literal ['a', 'l', 's', 'e']
    | '"' => advance; set (← skipString (← get))
    | '[' =>
      advance
      if (← peek) = ']' then advance else skipItems fuel
    | '\x7b' =>
      advance
      if (← peek) = '\x7d' then advance else skipMembers fuel
    | c => if startsNumeral c then skipNumeral else throw .malformed

/-- Passes the items of a list from one of them on. -/
def skipItems : Nat → Decoder Unit
  | 0 => throw .truncated
  | fuel + 1 => do
    skipValue fuel
    match ← peek with
    | ']' => advance
    | ',' => advance; skipItems fuel
    | _ => throw .malformed

/-- Passes the members of an object from one of them on. -/
def skipMembers : Nat → Decoder Unit
  | 0 => throw .truncated
  | fuel + 1 => do
    expect '"'
    set (← skipString (← get))
    expect ':'
    skipValue fuel
    match ← peek with
    | '\x7d' => advance
    | ',' => advance; skipMembers fuel
    | _ => throw .malformed

end

/-- Passes a value.  At most every second step passes no character. -/
def skip : Decoder Unit := do skipValue (2 * (← get).length + 2)

/-! ## Whole texts -/

/-- Reads a whole text; only blanks may follow the value. -/
def decode {α : Type} (value : Decoder α) (source : String) : Except DecodeError α := do
  let (a, rest) ← value.run source.toList
  if rest.all isBlank then return a else throw .malformed

end Handover.Json.Decoder
