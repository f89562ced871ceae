/-! # Binary floating point

The nonnegative numbers of the 64-bit binary format, as `mantissa * 2 ^ exponent` in exact integer
arithmetic.  `nearest` rounds a quotient to the format, ties to the even mantissa, and every operation
is the exact result rounded once; a result above the largest number of the format is recognised by
`isFinite`.
-/

namespace Handover

structure Double where
  mantissa : Nat
  exponent : Int
deriving DecidableEq

namespace Double

def zero : Double := ⟨0, 0⟩

def isZero (x : Double) : Bool := x.mantissa = 0

/-- Whether the number is within the range of the format. -/
def isFinite (x : Double) : Bool := x.exponent ≤ 971

/-- The number as a quotient. -/
def numerator (x : Double) : Nat := x.mantissa <<< x.exponent.toNat

def denominator (x : Double) : Nat := 1 <<< (-x.exponent).toNat

/-- The quotient of two naturals rounded to a natural, ties to even. -/
def roundHalfEven (num den : Nat) : Nat :=
  let q := num / den
  let r := num % den
  if 2 * r > den ∨ (2 * r = den ∧ q % 2 = 1) then q + 1 else q

/-- The number of the format nearest to a quotient.  Its exponent is the one that leaves 53 binary
digits, but never below that of the smallest numbers. -/
def nearest (num den : Nat) : Double :=
  if num = 0 then zero
  else
    let a := num.log2
    let b := den.log2
    -- The quotient lies between `2 ^ log` and twice that.
    let log : Int := if num <<< b < den <<< a then (a : Int) - b - 1 else (a : Int) - b
    let exponent := max (log - 52) (-1074)
    let mantissa := roundHalfEven (num <<< (-exponent).toNat) (den <<< exponent.toNat)
    if mantissa = 1 <<< 53 then ⟨1 <<< 52, exponent + 1⟩ else ⟨mantissa, exponent⟩

def mul (x y : Double) : Double :=
  nearest (x.numerator * y.numerator) (x.denominator * y.denominator)

def div (x y : Double) : Double :=
  nearest (x.numerator * y.denominator) (x.denominator * y.numerator)

/-! ## Powers of ten -/

/-- The largest power of ten in the format is `10 ^ 308`. -/
def maxPower : Nat := 308

def powerOfTen (k : Nat) : Double := nearest (Nat.pow 10 k) 1

/-- Divides by a power of ten, in steps of at most the largest one the format has. -/
def divPowerOfTen (x : Double) (k : Nat) : Double :=
  if k ≤ maxPower then x.div (powerOfTen k)
  else if x.isZero then x
  else divPowerOfTen (x.div (powerOfTen maxPower)) (k - maxPower)
termination_by k
decreasing_by simp only [maxPower] at *; omega

/-- Multiplies by a power of ten; nothing if the result is above the range of the format. -/
def mulPowerOfTen? (x : Double) (k : Nat) : Option Double :=
  if k ≤ maxPower then
    let y := x.mul (powerOfTen k)
    if y.isFinite then some y else none
  else if x.isZero then some x
  else none

/-- A natural number times a power of ten, computed in the format. -/
def ofDecimal? (digits : Nat) (exponent : Int) : Option Double :=
  let x := nearest digits 1
  if exponent < 0 then some (x.divPowerOfTen exponent.natAbs) else x.mulPowerOfTen? exponent.toNat

end Double

end Handover
