import Handover.Json.Error

/-! # Numbers

A number is read digit by digit into a significand of at most 64 bits.  Digits of the whole part that
no longer fit only raise the exponent, and digits of the fraction that no longer fit are left out.  A
number without fraction and exponent that fits is a whole number; every other one, and minus zero, is
floating point, and is refused if it is above the range of that format.
-/

namespace Handover.Json.Numeral

def maxSignificand : Nat := UInt64.size - 1

/-- Appends digits to a significand for as long as it fits; tells how many were appended. -/
def gather (significand : Nat) : List Char → Nat × Nat
  | [] => (significand, 0)
  | c :: cs =>
    let longer := significand * 10 + (c.toNat - '0'.toNat)
    if longer ≤ maxSignificand then
      let (all, count) := gather longer cs
      (all, count + 1)
    else (significand, 0)

/-- At least one digit. -/
def digits : Decoder (List Char) := fun input =>
  match input.span Char.isDigit with
  | ([], []) => .error .truncated
  | ([], _) => .error .malformed
  | (ds, rest) => .ok (ds, rest)

/-- An exponent after its letter. -/
def exponent : Decoder Int := do
  match ← get with
  | '-' :: rest => set rest; return -(value (← digits))
  | '+' :: rest => set rest; return value (← digits)
  | _ => return value (← digits)
where
  value (ds : List Char) : Int := ds.foldl (fun n c => n * 10 + (c.toNat - '0'.toNat)) 0

/-- A floating point number, unless it is out of range. -/
def ofDecimal (negative : Bool) (significand : Nat) (exponent : Int) : Decoder Numeral :=
  match Double.ofDecimal? significand exponent with
  | some x => return .floating negative x
  | none => throw .malformed

/-- What may follow the digits of a floating point number: an exponent. -/
def afterFraction (negative : Bool) (significand : Nat) (scale : Int) : Decoder Numeral := do
  match ← get with
  | 'e' :: rest | 'E' :: rest =>
    set rest
    ofDecimal negative significand (scale + (← exponent))
  | _ => ofDecimal negative significand scale

/-- A whole number: negative ones reach down to `-2 ^ 63`, and zero has no sign. -/
def ofInteger (negative : Bool) (significand : Nat) : Numeral :=
  if !negative then .integer significand
  else if significand = 0 ∨ -(significand : Int) < Int64.minValue.toInt then .floating true (.nearest significand 1)
  else .integer (-significand)

/-- A number after its sign. -/
def unsigned (negative : Bool) : Decoder Numeral := do
  let ds ← digits
  if ds.length > 1 ∧ ds.head? = some '0' then throw .malformed
  let (significand, count) := gather 0 ds
  let scale : Int := ds.length - count
  match ← get with
  | '.' :: rest =>
    set rest
    let (significand, count) := gather significand (← digits)
    afterFraction negative significand (scale - count)
  | 'e' :: _ | 'E' :: _ => afterFraction negative significand scale
  | _ =>
    if scale = 0 then return ofInteger negative significand
    else ofDecimal negative significand scale

def read : Decoder Numeral := do
  match ← get with
  | '-' :: rest => set rest; unsigned true
  | _ => unsigned false

end Handover.Json.Numeral
