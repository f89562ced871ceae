import Handover.Json.Error
import Handover.Text.Hexadecimal

/-! # Strings

Between its quotes a string holds every character but the controls below the blank as itself; quotes
and backslashes must be escaped, and any UTF-16 unit may be written by four hexadecimal digits.  Half
of a surrogate pair stands for no character.

Where the value of a string does not matter it is only skipped, and then the units are not looked at.
-/

namespace Handover.Json

open Text (hexDigit?)

/-! ## Reading -/

/-- The unit that four hexadecimal digits stand for.  A text with fewer than four bytes left ends too
early, whatever it holds. -/
def unit : List Char → Except DecodeError (Nat × List Char)
  | a :: b :: c :: d :: rest =>
    match hexDigit? a, hexDigit? b, hexDigit? c, hexDigit? d with
    | some a, some b, some c, some d => .ok (((a * 16 + b) * 16 + c) * 16 + d, rest)
    | _, _, _, _ => .error .malformed
  | short => .error (if short.foldl (· + ·.utf8Size) 0 < 4 then .truncated else .malformed)

def isHighSurrogate (n : Nat) : Bool := 0xD800 ≤ n ∧ n ≤ 0xDBFF

def isLowSurrogate (n : Nat) : Bool := 0xDC00 ≤ n ∧ n ≤ 0xDFFF

/-- The second unit of a surrogate pair, with its escape. -/
def lowSurrogate : List Char → Except DecodeError (Nat × List Char)
  | [] | ['\\'] => .error .truncated
  | '\\' :: 'u' :: rest =>
    match unit rest with
    | .ok (low, rest) => if isLowSurrogate low then .ok (low, rest) else .error .malformed
    | .error e => .error e
  | _ => .error .malformed

/-- The character that one unit or a pair of units stands for. -/
def unitEscape (cs : List Char) : Except DecodeError (Char × List Char) :=
  match unit cs with
  | .error e => .error e
  | .ok (first, rest) =>
    if isLowSurrogate first then .error .malformed
    else if isHighSurrogate first then
      (lowSurrogate rest).map fun (low, rest) =>
        (.ofNat (0x10000 + (first - 0xD800) * 0x400 + (low - 0xDC00)), rest)
    else .ok (.ofNat first, rest)

/-- The character that a letter after a backslash names. -/
def namedEscape? : Char → Option Char
  | '"' => some '"'
  | '\\' => some '\\'
  | '/' => some '/'
  | 'b' => some '\x08'
  | 'f' => some '\x0c'
  | 'n' => some '\n'
  | 'r' => some '\r'
  | 't' => some '\t'
  | _ => none

/-- The character that stands after a backslash. -/
def escape : List Char → Except DecodeError (Char × List Char)
  | [] => .error .truncated
  | 'u' :: rest => unitEscape rest
  | c :: rest =>
    match namedEscape? c with
    | some named => .ok (named, rest)
    | none => .error .malformed

theorem length_unit {cs rest : List Char} {n : Nat} (h : unit cs = .ok (n, rest)) :
    rest.length < cs.length := by
  unfold unit at h
  grind

theorem length_lowSurrogate {cs rest : List Char} {n : Nat}
    (h : lowSurrogate cs = .ok (n, rest)) : rest.length < cs.length := by
  unfold lowSurrogate at h
  split at h <;> try cases h
  next tail =>
    cases hu : unit tail with
    | error e => simp [hu] at h
    | ok r =>
      have := length_unit hu
      grind

theorem length_unitEscape {cs rest : List Char} {c : Char} (h : unitEscape cs = .ok (c, rest)) :
    rest.length < cs.length := by
  unfold unitEscape at h
  cases hu : unit cs with
  | error e => simp [hu] at h
  | ok r =>
    have := length_unit hu
    cases hl : lowSurrogate r.2 with
    | error e => grind [Except.map]
    | ok q =>
      have := length_lowSurrogate hl
      grind [Except.map]

theorem length_escape {cs rest : List Char} {c : Char} (h : escape cs = .ok (c, rest)) :
    rest.length < cs.length := by
  unfold escape at h
  split at h
  · cases h
  · exact Nat.lt_succ_of_lt (length_unitEscape h)
  · grind

/-- A string after its opening quote. -/
def stringBody (input : List Char) : Except DecodeError (List Char × List Char) :=
  match input with
  | [] => .error .truncated
  | '"' :: rest => .ok ([], rest)
  | '\\' :: rest =>
    match _h : escape rest with
    | .error e => .error e
    | .ok (c, rest) => (stringBody rest).map fun (cs, rest) => (c :: cs, rest)
  | c :: rest =>
    if c < ' ' then .error .malformed
    else (stringBody rest).map fun (cs, rest) => (c :: cs, rest)
termination_by input.length
decreasing_by
  · have := length_escape _h
    simp only [List.length_cons]
    omega
  · simp

/-- A string after its opening quote. -/
def string : Decoder String := fun input =>
  (stringBody input).map fun (cs, rest) => (.ofList cs, rest)

/-- Skips a string after its opening quote. -/
def skipString (input : List Char) : Except DecodeError (List Char) :=
  match input with
  | [] => .error .truncated
  | '"' :: rest => .ok rest
  | ['\\'] => .error .truncated
  | '\\' :: 'u' :: rest =>
    match _h : unit rest with
    | .error e => .error e
    | .ok (_, rest) => skipString rest
  | '\\' :: c :: rest => if (namedEscape? c).isSome then skipString rest else .error .malformed
  | c :: rest => if c < ' ' then .error .malformed else skipString rest
termination_by input.length
decreasing_by
  · have := length_unit _h
    simp only [List.length_cons]
    omega
  all_goals simp +arith

/-! ## Writing -/

/-- One character between the quotes. -/
def escapedChar (c : Char) : List Char :=
  if c = '"' ∨ c = '\\' then ['\\', c]
  else if c = '\x08' then ['\\', 'b']
  else if c = '\x0c' then ['\\', 'f']
  else if c = '\n' then ['\\', 'n']
  else if c = '\r' then ['\\', 'r']
  else if c = '\t' then ['\\', 't']
  else if c < ' ' then
    ['\\', 'u', '0', '0', Nat.digitChar (c.toNat / 16), Nat.digitChar (c.toNat % 16)]
  else [c]

def stringLiteral (s : String) : List Char := '"' :: s.toList.flatMap escapedChar ++ ['"']

end Handover.Json
