import Handover.Double.Basic

/-! # Shortest decimal text

The text of a number has the fewest decimal digits from which the same number is read back, and of
several such the nearest to it.  The reals that are rounded to a number form an interval around it;
`shortest` looks for the coarsest decimal grid that has a point in this interval.  On any grid it is
enough to try the two neighbours of the number itself.
-/

namespace Handover

/-- The number `digits * 10 ^ exponent`. -/
structure Decimal where
  digits : Nat
  exponent : Int
deriving DecidableEq

namespace Double

/-- The interval of the reals that are rounded to a number, in units of `2 ^ scale`.  Its ends belong
to it when the mantissa is even. -/
structure Interval where
  lower : Nat
  middle : Nat
  upper : Nat
  scale : Int
  closed : Bool

/-- Below a power of two the neighbours are half as far away as above it. -/
def interval (x : Double) : Interval where
  lower := 4 * x.mantissa - (if x.mantissa = 1 <<< 52 ∧ x.exponent > -1074 then 1 else 2)
  middle := 4 * x.mantissa
  upper := 4 * x.mantissa + 2
  scale := x.exponent - 2
  closed := x.mantissa % 2 = 0

/-- Whether the quotient of two naturals, in the units of the interval, lies in it. -/
def Interval.contains (i : Interval) (num den : Nat) : Bool :=
  if i.closed then i.lower * den ≤ num ∧ num ≤ i.upper * den
  else i.lower * den < num ∧ num < i.upper * den

/-- The point of the grid with step `10 ^ power` that lies in the interval and is nearest to its
middle; of two equally near ones the even one. -/
def Interval.onGrid? (i : Interval) (power : Int) : Option Nat :=
  -- A point `t` of the grid is `t * step / unit` in the units of the interval.
  let step := Nat.pow 10 power.toNat <<< (-i.scale).toNat
  let unit := Nat.pow 10 (-power).toNat <<< i.scale.toNat
  let below := i.middle * unit / step
  let above := below + 1
  let distanceBelow := i.middle * unit - below * step
  let distanceAbove := above * step - i.middle * unit
  match i.contains (below * step) unit, i.contains (above * step) unit with
  | true, true =>
    if distanceBelow < distanceAbove ∨ (distanceBelow = distanceAbove ∧ below % 2 = 0) then
      some below
    else some above
  | true, false => some below
  | false, true => some above
  | false, false => none

/-- The shortest decimal that is rounded to the number. -/
def shortest (x : Double) : Decimal :=
  if x.isZero then ⟨0, 0⟩
  else
    let width (n : Nat) : Int := (Nat.toDigits 10 n).length
    -- The number is below `10 ^ top`, and seventeen digits always suffice.
    let top := width x.numerator - width x.denominator + 1
    let powers := (List.range 20).map fun (k : Nat) => top - k
    (powers.findSome? fun power => (x.interval.onGrid? power).map (⟨·, power⟩)).getD ⟨0, 0⟩

end Double

namespace Decimal

/-- Which decimal exponents of the first digit are written without an exponent. -/
def positional (exponent : Int) : Bool := -5 ≤ exponent ∧ exponent ≤ 15

/-- The text of a decimal: at least one digit on either side of the point, or one digit before the
point and a signed exponent. -/
def text (d : Decimal) : String :=
  let digits := Nat.toDigits 10 d.digits
  let zeros (n : Int) : List Char := List.replicate n.toNat '0'
  let exponent := d.exponent + digits.length - 1
  .ofList <|
    if positional exponent then
      if 0 ≤ d.exponent then digits ++ zeros d.exponent ++ ['.', '0']
      else if 0 ≤ exponent then
        digits.take (exponent + 1).toNat ++ '.' :: digits.drop (exponent + 1).toNat
      else '0' :: '.' :: zeros (-exponent - 1) ++ digits
    else
      digits.take 1 ++ (if digits.length = 1 then [] else '.' :: digits.drop 1) ++
        'e' :: (if exponent < 0 then '-' else '+') :: Nat.toDigits 10 exponent.natAbs

end Decimal

end Handover
