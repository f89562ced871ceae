/-! # Durations

Spans of time in whole nanoseconds, in 64 bits.  A span that would not fit is the longest one.
-/

namespace Handover

structure Duration where
  nanoseconds : UInt64
deriving DecidableEq

namespace Duration

def second : Duration := ⟨1000000000⟩

def longest : Duration := ⟨.ofNat (UInt64.size - 1)⟩

/-- An equal part of a span, rounded down. -/
def part (duration : Duration) (count : UInt64) : Duration := ⟨duration.nanoseconds / count⟩

/-- A span repeated; `longest` if the result does not fit. -/
def times (duration : Duration) (count : UInt64) : Duration :=
  if count = 0 ∨ duration.nanoseconds ≤ longest.nanoseconds / count then
    ⟨duration.nanoseconds * count⟩
  else longest

/-- A count of units of `10 ^ places` parts each, with as much of the fraction as is not zero. -/
def inUnits (parts places : Nat) : List Char :=
  let fraction := Nat.toDigits 10 (parts % Nat.pow 10 places)
  let padded := List.replicate (places - fraction.length) '0' ++ fraction
  let trimmed := (padded.reverse.dropWhile (· = '0')).reverse
  Nat.toDigits 10 (parts / Nat.pow 10 places) ++ if trimmed = [] then [] else '.' :: trimmed

/-- The span in the largest of seconds, milliseconds, microseconds and nanoseconds that it reaches,
without rounding. -/
def text (duration : Duration) : String :=
  let n := duration.nanoseconds.toNat
  if n ≥ Nat.pow 10 9 then .ofList (inUnits n 9) ++ "s"
  else if n ≥ Nat.pow 10 6 then .ofList (inUnits n 6) ++ "ms"
  else if n ≥ Nat.pow 10 3 then .ofList (inUnits n 3) ++ "µs"
  else .ofList (inUnits n 0) ++ "ns"

end Duration

end Handover
