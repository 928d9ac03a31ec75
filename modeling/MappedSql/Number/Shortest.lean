import MappedSql.Number.Binary64

namespace MappedSql

/-- Where a decimal that lies halfway between two candidates goes. -/
inductive TieRule
  | up
  | toEven
  deriving DecidableEq

/-- The positive decimal `0.d₁d₂… * 10 ^ point`, its digits given as one integer. -/
structure ShortDecimal where
  digits : Nat
  point : Int
  deriving DecidableEq

def decimalLength (n : Nat) : Nat :=
  if _large : 10 ≤ n then decimalLength (n / 10) + 1 else 1

namespace Binary64

/-- The reals that round to a positive finite number, in units of `2 ^ -1076`, and whether the ends
belong to them. -/
structure RoundingInterval where
  low : Nat
  middle : Nat
  high : Nat
  closed : Bool

def roundingInterval (x : Binary64) : RoundingInterval :=
  let unit := Nat.pow 2 x.unitExponent
  let middle := 4 * x.magnitude
  let lowerGap := if x.significand = Nat.pow 2 52 && x.unitExponent != 0 then unit else 2 * unit
  ⟨middle - lowerGap, middle, middle + 2 * unit, x.significand % 2 == 0⟩

/-- The place of the decimal point before the first digit: `10 ^ (point - 1) ≤ x < 10 ^ point`. -/
def decimalPoint (num den : Nat) : Int :=
  if den ≤ num then decimalLength (num / den) else -(decimalLength ((den - 1) / num) - 1 : Int)

/-- The point nearest to the number on the grid of `10 ^ exponent` that rounds to the number. -/
def gridPoint? (interval : RoundingInterval) (tie : TieRule) (exponent : Int) : Option Nat :=
  let up := Nat.pow 10 exponent.toNat
  let down := Nat.pow 10 (-exponent).toNat
  let unit := Nat.pow 2 1076 * up
  let scaled (n : Nat) := n * down
  let below := scaled interval.middle / unit
  let inside (candidate : Nat) : Bool :=
    let place := candidate * unit
    if interval.closed then scaled interval.low ≤ place && place ≤ scaled interval.high
    else scaled interval.low < place && place < scaled interval.high
  let twice := 2 * (scaled interval.middle - below * unit)
  match inside below, inside (below + 1) with
  | false, false => none
  | true, false => some below
  | false, true => some (below + 1)
  | true, true =>
      if twice < unit then some below
      else if unit < twice then some (below + 1)
      else
        match tie with
        | .up => some (below + 1)
        | .toEven => some (if below % 2 = 0 then below else below + 1)

def searchGrids (interval : RoundingInterval) (tie : TieRule) (point : Int) :
    Nat → Nat → Option (Nat × Int)
  | 0, _ => none
  | count + 1, used =>
      match gridPoint? interval tie (point - used) with
      | some digits => some (digits, point - used)
      | none => searchGrids interval tie point count (used + 1)

def dropTrailingZeros (fuel : Nat) (digits : Nat) : Nat :=
  match fuel with
  | 0 => digits
  | fuel + 1 =>
      if digits % 10 = 0 && digits != 0 then dropTrailingZeros fuel (digits / 10) else digits

def shortest (tie : TieRule) (x : Binary64) : ShortDecimal :=
  let interval := x.roundingInterval
  let point := decimalPoint interval.middle (Nat.pow 2 1076)
  let (digits, exponent) := (searchGrids interval tie point 17 1).getD (0, 0)
  ⟨dropTrailingZeros 20 digits, decimalLength digits + exponent⟩

end Binary64

end MappedSql
