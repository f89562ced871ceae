import Handover.Text.Alphanumeric
import Handover.Text.Blank
import Handover.Text.Hexadecimal

/-! # Patterns

A directive of a log filter may ask for values of a certain form, given by a regular expression.  No
record is ever compared with one, so all that matters is whether a text is such a pattern.

A pattern is a list of alternatives between bars, each a sequence of characters, classes and groups that
may be repeated.  A group can switch modes for itself or for the rest of the group around it.  Patterns
speak of all characters, or of ASCII alone when the mode `u` is off.  No properties of characters are
known here, so what rests on them is refused: kinds of characters and the edges of words except in
ASCII, and letters in either case beyond it.  What would match half of a character is refused too.

A directive ends a pattern at the first closing brace, and a filter ends a directive at the first comma.
So nothing in braces is ever complete: repetitions that are counted, and characters by a number of any
length.
-/

namespace Handover.Log.Pattern

open Text (hexDigit? isAlphabetic isAlphanumeric isBlank)

structure Modes where
  /-- Letters stand for both of their cases. -/
  ignoresCase : Bool
  /-- The pattern speaks of all characters, and not of ASCII alone. -/
  isUnicode : Bool
  /-- Blanks mean nothing, and neither does a remark, from a hash to the end of its line. -/
  isSpaced : Bool
deriving DecidableEq

/-- What is left of a pattern, and what was said before. -/
structure Input where
  rest : List Char
  modes : Modes
  names : List String

abbrev Reader := StateT Input Option

/-! ## Steps -/

/-- The next character, if there is one; it stays. -/
def next? : Reader (Option Char) := return (← get).rest.head?

/-- The next character, which must be there; it stays. -/
def next : Reader Char := do
  match ← next? with
  | some c => return c
  | none => failure

def advance : Reader Unit := modify fun input => { input with rest := input.rest.tail }

/-- Passes the given characters if they come next, and tells whether they did. -/
def passes (cs : List Char) : Reader Bool := do
  let input ← get
  if cs.isPrefixOf input.rest then
    set { input with rest := input.rest.drop cs.length }
    return true
  else return false

/-- The text after blanks and remarks; the first argument tells whether a remark has begun. -/
def afterBlanks (inRemark : Bool) : List Char → List Char
  | [] => []
  | c :: cs =>
    if inRemark then afterBlanks (c ≠ '\n') cs
    else if isBlank c then afterBlanks false cs
    else if c = '#' then afterBlanks true cs
    else c :: cs

/-- Passes blanks and remarks where they mean nothing. -/
def skip : Reader Unit :=
  modify fun input =>
    if input.modes.isSpaced then { input with rest := afterBlanks false input.rest } else input

/-! ## Atoms -/

/-- What one character of a pattern, or one escape, stands for. -/
inductive Atom where
  /-- A character, which may be given by the two digits of a byte. -/
  | literal (c : Char) (isByte : Bool)
  /-- Any character but the end of a line. -/
  | any
  /-- A digit, a blank or a character of words, or anything but one. -/
  | kind (isNegated : Bool)
  /-- Where a text begins or ends. -/
  | edge
  /-- Where a word begins or ends. -/
  | wordEdge

/-- Whether an atom may stand for itself. -/
def Atom.mayStand (modes : Modes) : Atom → Bool
  | literal c isByte =>
    if modes.isUnicode then !modes.ignoresCase else !isByte ∨ c ≤ '\x7f'
  | any => modes.isUnicode
  | kind isNegated => !modes.isUnicode ∧ !isNegated
  | edge => true
  | wordEdge => !modes.isUnicode

/-- Whether an atom may be a member of a class. -/
def Atom.mayBelong (modes : Modes) : Atom → Bool
  | literal c _ => if modes.isUnicode then !modes.ignoresCase else c ≤ '\x7f'
  | kind isNegated => !modes.isUnicode ∧ !isNegated
  | any | edge | wordEdge => false

/-- A number of the given count of hexadecimal digits, after the value of those before. -/
def hexadecimal (value : Nat) : Nat → Reader Nat
  | 0 => return value
  | count + 1 => do
    skip
    match hexDigit? (← next) with
    | some digit => advance; hexadecimal (16 * value + digit) count
    | none => failure

/-- A character by its number. -/
def numbered (count : Nat) : Reader Atom := do
  let value ← hexadecimal 0 count
  if value.isValidChar then return .literal (.ofNat value) (count = 2) else failure

/-- The character that a letter after a backslash names. -/
def namedEscape? : Char → Option Char
  | 'a' => some '\x07'
  | 'f' => some '\x0c'
  | 't' => some '\t'
  | 'n' => some '\n'
  | 'r' => some '\r'
  | 'v' => some '\x0b'
  | _ => none

/-- An escape after its backslash. -/
def escape : Reader Atom := do
  let c ← next
  advance
  match c with
  | 'x' => numbered 2
  | 'u' => numbered 4
  | 'U' => numbered 8
  | 'd' | 's' | 'w' => return .kind false
  | 'D' | 'S' | 'W' => return .kind true
  | 'A' | 'z' => return .edge
  | 'b' | 'B' | '<' | '>' => return .wordEdge
  | _ =>
    match namedEscape? c with
    | some c => return .literal c false
    | none => if c ≤ '\x7f' ∧ !c.isAlphanum then return .literal c false else failure

/-- An atom that must be one that may stand for itself. -/
def standing : Reader Unit := do
  let c ← next
  advance
  let atom ← match c with
    | '\\' => escape
    | '.' => pure .any
    | '^' | '$' => pure .edge
    | _ => pure (.literal c false)
  if !atom.mayStand (← get).modes then failure

/-! ## Nesting -/

/-- How deeply patterns may be nested. -/
def depthLimit : Nat := 250

/-- How deeply a list of parts is nested: a list of one part is that part. -/
def nested : List Nat → Nat
  | [] => 0
  | [depth] => depth
  | depths => depths.foldl max 0 + 1

/-! ## Classes

A class lists its members between square brackets.  Classes are nested and combined by doubled signs.
A class that leaves out what it lists holds characters beyond ASCII, so it needs the mode for them.
-/

/-- The names of sets of ASCII characters. -/
def setNames : List String :=
  ["alnum", "alpha", "ascii", "blank", "cntrl", "digit", "graph", "lower", "print", "punct", "space",
    "upper", "word", "xdigit"]

/-- Splits off a named set after its opening bracket: whether it is negated, and what follows. -/
def namedSet? : List Char → Option (Bool × List Char)
  | ':' :: cs =>
    let (isNegated, cs) := match cs with
      | '^' :: cs => (true, cs)
      | cs => (false, cs)
    match cs.span (· ≠ ':') with
    | (name, ':' :: ']' :: rest) =>
      if .ofList name ∈ setNames then some (isNegated, rest) else none
    | _ => none
  | _ => none

/-- Refuses a set of several characters, perhaps negated, where the modes do not allow it. -/
def allowSet (isNegated : Bool) : Reader Unit := do
  let modes := (← get).modes
  if if modes.isUnicode then modes.ignoresCase else isNegated then failure

def member : Reader Atom := do
  let c ← next
  advance
  if c = '\\' then escape else return .literal c false

/-- The sign after a dash in a class.  A remark is passed here only up to its first word. -/
def signAfterDash? (isSpaced : Bool) (cs : List Char) : Option Char :=
  if isSpaced then
    match cs.dropWhile isBlank with
    | '#' :: cs => (cs.dropWhile isBlank).head?
    | cs => cs.head?
  else cs.head?

/-- A member of a class, or a range of them between a dash. -/
def range : Reader Unit := do
  let first ← member
  skip
  let input ← get
  let modes := input.modes
  let isRange : Bool := match input.rest with
    | '-' :: cs => signAfterDash? modes.isSpaced cs ∉ [some ']', some '-']
    | _ => false
  if isRange then
    advance
    skip
    let last ← member
    match first, last with
    | .literal a _, .literal b _ =>
      if !(a ≤ b ∧ first.mayBelong modes ∧ last.mayBelong modes) then failure
    | _, _ => failure
  else if !first.mayBelong modes then failure

/-- The depth of a class whose left operand, if it is a combination, and last members have these. -/
def classDepth (left : Option Nat) (members : List Nat) : Nat :=
  match left with
  | some depth => max depth (nested members) + 1
  | none => nested members

mutual

/-- A class after its opening bracket; gives its depth. -/
def bracketed : Nat → Reader Nat
  | 0 => failure
  | fuel + 1 => do
    skip
    let isNegated ← passes ['^']
    if isNegated ∧ !(← get).modes.isUnicode then failure
    members fuel true none []

/-- The rest of a class.  At its front any dashes, or else one closing bracket, are members. -/
def members (fuel : Nat) (isFront : Bool) (left : Option Nat) (before : List Nat) : Reader Nat :=
  match fuel with
  | 0 => failure
  | fuel + 1 => do
    skip
    let c ← next
    let isPlain := isFront && (c = '-' || c = ']' && before.isEmpty)
    if isPlain then
      advance
      if !(Atom.literal c false).mayBelong (← get).modes then failure
      members fuel (c = '-') left (0 :: before)
    else if c = ']' then
      advance
      return classDepth left before + 1
    else if c = '[' then
      advance
      match namedSet? (← get).rest with
      | some (isNegated, rest) =>
        modify fun input => { input with rest }
        allowSet isNegated
        members fuel false left (0 :: before)
      | none => members fuel false left ((← bracketed fuel) :: before)
    else if ← passes ['&', '&'] <||> passes ['-', '-'] <||> passes ['~', '~'] then
      members fuel false (some (classDepth left before)) []
    else
      range
      members fuel false left (0 :: before)

end

/-! ## Groups -/

/-- The name of a group up to its closing bracket.  No two groups have one name. -/
def groupName : Reader Unit := do
  let input ← get
  match input.rest.span (· ≠ '>') with
  | (c :: cs, '>' :: rest) =>
    let name := String.ofList (c :: cs)
    let isName := (c = '_' ∨ isAlphabetic c) ∧
      cs.all fun c => isAlphanumeric c ∨ c = '_' ∨ c = '.' ∨ c = '[' ∨ c = ']'
    if isName ∧ name ∉ input.names then set { input with rest, names := name :: input.names }
    else failure
  | _ => failure

/-- Modes after some were switched: those before a dash on, those after it off. -/
def Modes.switch (modes : Modes) (switches : List Char) : Modes :=
  let (on, off) := switches.span (· ≠ '-')
  let set (letter : Char) (mode : Bool) : Bool := letter ∈ on ∨ mode ∧ letter ∉ off
  ⟨set 'i' modes.ignoresCase, set 'u' modes.isUnicode, set 'x' modes.isSpaced⟩

/-- Switches modes, up to the bracket or colon that ends the switches.  Every switch comes once, and
something follows a dash. -/
def switches : Reader Char := do
  let input ← get
  match input.rest.span fun c => c ≠ ':' ∧ c ≠ ')' with
  | (cs, ending :: rest) =>
    if cs.all "imsUuRx-".toList.contains ∧ cs.Nodup ∧ cs.getLast? ≠ some '-' ∧
        (cs ≠ [] ∨ ending = ':') then
      set { input with rest, modes := input.modes.switch cs }
      return ending
    else failure
  | _ => failure

structure Part where
  depth : Nat
  /-- Whether a sign of repetition may follow: not after a switch of modes. -/
  isRepeatable : Bool

mutual

/-- Alternatives up to a closing bracket or the end; gives their depth. -/
def alternatives (fuel : Nat) (before : List Nat) : Reader Nat :=
  match fuel with
  | 0 => failure
  | fuel + 1 => do
    let depths := nested ((← parts fuel []).map (·.depth)) :: before
    if ← passes ['|'] then alternatives fuel depths else return nested depths

/-- The parts of a sequence, last first. -/
def parts (fuel : Nat) (before : List Part) : Reader (List Part) :=
  match fuel with
  | 0 => failure
  | fuel + 1 => do
    skip
    match ← next? with
    | none | some '|' | some ')' => return before
    | some '(' =>
      advance
      let part ← group fuel
      parts fuel (part :: before)
    | some '[' =>
      advance
      let depth ← bracketed fuel
      parts fuel (⟨depth, true⟩ :: before)
    | some '?' | some '*' | some '+' =>
      match before with
      | ⟨depth, true⟩ :: before =>
        advance
        discard (passes ['?'])
        parts fuel (⟨depth + 1, true⟩ :: before)
      | _ => failure
    | some '\x7b' => failure
    | some _ =>
      standing
      parts fuel (⟨0, true⟩ :: before)

/-- A group after its opening bracket, or a switch of modes. -/
def group (fuel : Nat) : Reader Part :=
  match fuel with
  | 0 => failure
  | fuel + 1 => do
    let modes := (← get).modes
    skip
    let isNamed ← passes ['?', 'P', '<'] <||> passes ['?', '<']
    if isNamed then groupName
    let hasSwitches ← if isNamed then pure false else passes ['?']
    let ending ← if hasSwitches then switches else pure ':'
    if ending = ')' then return ⟨0, false⟩
    let depth ← alternatives fuel []
    if !(← passes [')']) then failure
    modify fun input => { input with modes }
    return ⟨depth + 1, true⟩

end

/-! ## Values -/

/-- Whether a text is a pattern.  No character takes more than four steps. -/
def isPattern (text : String) : Bool :=
  let cs := text.toList
  match (alternatives (4 * cs.length + 4) []).run ⟨cs, ⟨false, true, false⟩, []⟩ with
  | some (depth, input) => input.rest.isEmpty ∧ depth ≤ depthLimit
  | none => false

/-- Whether the rest of a number is an exponent or nothing. -/
def isExponent : List Char → Bool
  | [] => true
  | mark :: cs =>
    let digits := match cs with
      | '+' :: cs | '-' :: cs => cs
      | cs => cs
    (mark = 'e' ∨ mark = 'E') ∧ digits ≠ [] ∧ digits.all Char.isDigit

/-- Whether a text is a decimal number without a sign, with digits on one side of its point at least. -/
def isDecimal (cs : List Char) : Bool :=
  let (whole, rest) := cs.span Char.isDigit
  let (fraction, rest) := match rest with
    | '.' :: rest => rest.span Char.isDigit
    | rest => ([], rest)
  (whole ≠ [] ∨ fraction ≠ []) ∧ isExponent rest

/-- Whether a text says which values are meant: by a pattern, or as a number.  A number is a pattern
too, unless it has a plus sign. -/
def describesValues (text : String) : Bool :=
  isPattern text ||
    match text.toList with
    | '+' :: cs =>
      isDecimal cs ∨ (String.ofList cs).toLower ∈ ["inf", "infinity", "nan"]
    | _ => false

end Handover.Log.Pattern
