import LiveList.Decimal.Binary

/-!
The shortest decimal that reads back as a given double. For one, two, … seventeen digits the two
neighbours of the number on that decimal grid are tried; the first grid with a neighbour inside the
interval of reals that round to the double wins, and of two such neighbours the nearer one.
-/

namespace LiveList.Decimal

inductive Tie where
  | up
  | even
  deriving DecidableEq

/-- The number `coefficient · 10 ^ exponent`; the coefficient ends in no zero unless it is zero. -/
structure Scaled where
  coefficient : Nat
  exponent : Int
  deriving DecidableEq, Repr

structure Fraction where
  top : Nat
  bottom : Nat

def Fraction.ofBinary (count : Nat) (exponent : Int) : Fraction :=
  if exponent < 0 then ⟨count, Nat.pow 2 (-exponent).toNat⟩
  else ⟨count * Nat.pow 2 exponent.toNat, 1⟩

def Fraction.shift (number : Fraction) (exponent : Int) : Fraction :=
  if exponent < 0 then ⟨number.top * Nat.pow 10 (-exponent).toNat, number.bottom⟩
  else ⟨number.top, number.bottom * Nat.pow 10 exponent.toNat⟩

def leadingZeros : Nat → Nat → Nat → Nat
  | 0, _, _ => 0
  | fuel + 1, top, bottom => if bottom ≤ top then 0 else leadingZeros fuel (top * 10) bottom + 1

def leadingExponent (number : Fraction) : Int :=
  if number.bottom ≤ number.top then
    ((Nat.toDigits 10 (number.top / number.bottom)).length : Int) - 1
  else -(leadingZeros 400 number.top number.bottom : Int)

/-- The reals that round to a double, in quarters of its last binary place. The ends belong to it
when the mantissa is even. -/
structure Interval where
  low : Fraction
  high : Fraction
  closed : Bool

def Interval.ofBinary (number : Binary) : Interval :=
  let below := if number.tight then 1 else 2
  { low := Fraction.ofBinary (4 * number.mantissa - below) (number.exponent - 2)
    high := Fraction.ofBinary (4 * number.mantissa + 2) (number.exponent - 2)
    closed := number.mantissa % 2 == 0 }

def Interval.holds (interval : Interval) (count : Nat) (exponent : Int) : Bool :=
  let low := interval.low.shift exponent
  let high := interval.high.shift exponent
  if interval.closed then low.top ≤ count * low.bottom && count * high.bottom ≤ high.top
  else low.top < count * low.bottom && count * high.bottom < high.top

/-- Of the neighbours below and above a fraction on the grid `10 ^ exponent`, the one that rounds
to the double and is nearer. -/
def gridPoint? (tie : Tie) (interval : Interval) (number : Fraction) (exponent : Int) :
    Option Nat :=
  let scaled := number.shift exponent
  let below := scaled.top / scaled.bottom
  let rest := scaled.top % scaled.bottom
  let holdsBelow := interval.holds below exponent
  let holdsAbove := interval.holds (below + 1) exponent
  if holdsBelow && holdsAbove then
    if 2 * rest < scaled.bottom then some below
    else if scaled.bottom < 2 * rest then some (below + 1)
    else if tie == .even && below % 2 == 0 then some below
    else some (below + 1)
  else if holdsBelow then some below
  else if holdsAbove then some (below + 1)
  else none

def searchGrids (tie : Tie) (interval : Interval) (number : Fraction) (lead : Int) :
    Nat → Nat → Option Scaled
  | 0, _ => none
  | fuel + 1, digits =>
      let exponent := lead + 1 - (digits : Int)
      match gridPoint? tie interval number exponent with
      | some point => some ⟨point, exponent⟩
      | none => searchGrids tie interval number lead fuel (digits + 1)

def dropZeros : Nat → Scaled → Scaled
  | 0, number => number
  | fuel + 1, number =>
      if number.coefficient ≠ 0 ∧ number.coefficient % 10 = 0 then
        dropZeros fuel ⟨number.coefficient / 10, number.exponent + 1⟩
      else number

def shortest (tie : Tie) (number : Binary) : Scaled :=
  if number.mantissa = 0 then ⟨0, 0⟩
  else
    let exact := Fraction.ofBinary number.mantissa number.exponent
    -- Seventeen digits always do, so the fuel never runs out.
    match searchGrids tie (Interval.ofBinary number) exact (leadingExponent exact) 20 1 with
    | some found => dropZeros 20 found
    | none => ⟨0, 0⟩

end LiveList.Decimal
