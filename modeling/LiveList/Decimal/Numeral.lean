import LiveList.Decimal.Binary

/-!
Reading numbers. `Numeral` is the written number: its digits as one whole number and a power of
ten. `nearest` is the double next to it; `scaled` gets there by one multiplication or division of
doubles, which is how JSON numbers are read.
-/

namespace LiveList.Decimal

def digitValue (c : Char) : Nat := c.toNat - 48

def digitsValue (digits : List Char) : Nat :=
  digits.foldl (fun value digit => value * 10 + digitValue digit) 0

/-- A written decimal: `whole` before the point and `fraction` after it. -/
structure Numeral where
  negative : Bool
  whole : List Char
  fraction : List Char

namespace Numeral

def nearest (numeral : Numeral) : Float :=
  let size := Float.ofScientific (digitsValue (numeral.whole ++ numeral.fraction)) true
    numeral.fraction.length
  if numeral.negative then -size else size

/-- Reads digits and an optional point with digits; a digit must stand on at least one side of the
point, and nothing may follow. -/
def readUnsigned? (negative : Bool) (text : List Char) : Option Numeral :=
  let whole := text.takeWhile Char.isDigit
  match text.dropWhile Char.isDigit with
  | [] => if whole.isEmpty then none else some ⟨negative, whole, []⟩
  | '.' :: rest =>
      if rest.all Char.isDigit && !(whole.isEmpty && rest.isEmpty) then
        some ⟨negative, whole, rest⟩
      else none
  | _ => none

def read? : List Char → Option Numeral
  | '-' :: rest => readUnsigned? true rest
  | '+' :: rest => readUnsigned? false rest
  | text => readUnsigned? false text

end Numeral

def powerOfTen (power : Nat) : Float := Float.ofScientific 1 false power

/-- Steps of 308 places down while the exponent is below the range of doubles. -/
def scaleDown : Nat → Float → Nat → Float
  | 0, value, _ => value
  | fuel + 1, value, power =>
      if power ≤ 308 then value / powerOfTen power
      else if value == 0 then value
      else scaleDown fuel (value / powerOfTen 308) (power - 308)

/-- `significand · 10 ^ exponent` in double arithmetic: the significand is rounded first and then
multiplied or divided by a power of ten. There is no value past the range of doubles. -/
def scaled? (significand : Nat) (exponent : Int) : Option Float :=
  let value := Float.ofNat significand
  if exponent < 0 then some (scaleDown (exponent.natAbs / 308 + 2) value exponent.natAbs)
  else if exponent.toNat ≤ 308 then
    let product := value * powerOfTen exponent.toNat
    if product.isInf then none else some product
  else if value == 0 then some value
  else none

/-- Keeps as many leading digits as fit a 64-bit word; the count is of those left over. -/
def fitWord : Nat → List Char → Nat × Nat
  | value, [] => (value, 0)
  | value, digit :: rest =>
      let next := value * 10 + digitValue digit
      if next < UInt64.size then fitWord next rest else (value, rest.length + 1)

end LiveList.Decimal
