import LiveList.Decimal.Shortest

/-!
Texts of doubles. `plain` is what people read and filters match against; `tagged` is the form of
numbers inside JSON texts and messages, always recognisable as a fraction; `fixed` has a given
number of places.
-/

namespace LiveList.Decimal

def zeros (count : Nat) : String := String.ofList (List.replicate count '0')

/-- The digits of a coefficient with the point `exponent` places to the right of their end. -/
def positional (number : Scaled) : String :=
  let digits := (Nat.toDigits 10 number.coefficient)
  if 0 ≤ number.exponent then String.ofList digits ++ zeros number.exponent.toNat
  else
    let places := (-number.exponent).toNat
    if places < digits.length then
      String.ofList (digits.take (digits.length - places)) ++ "." ++
        String.ofList (digits.drop (digits.length - places))
    else "0." ++ zeros (places - digits.length) ++ String.ofList digits

def signText (negative : Bool) : String := if negative then "-" else ""

def plain (x : Float) : String :=
  match meaning x with
  | .notANumber => "NaN"
  | .infinite negative => signText negative ++ "inf"
  | .finite number => signText number.negative ++ positional (shortest .up number)

def pointed (digits : List Char) : String :=
  match digits with
  | [] => ""
  | [digit] => digit.toString
  | digit :: rest => digit.toString ++ "." ++ String.ofList rest

/-- A finite size in positional form from `0.00001` up to below `10 ^ 16`, with a point in any
case; outside of that with a signed exponent. -/
def taggedSize (number : Scaled) : String :=
  let digits := Nat.toDigits 10 number.coefficient
  let lead := number.exponent + (digits.length : Int)
  if number.coefficient = 0 then "0.0"
  else if -5 < lead ∧ lead ≤ 16 then
    if 0 ≤ number.exponent then positional number ++ ".0" else positional number
  else
    let power := lead - 1
    pointed digits ++ "e" ++ (if 0 ≤ power then "+" else "-") ++ toString power.natAbs

/-- A double as a JSON text writes it; what is not finite has no such form and is null. -/
def tagged (x : Float) : String :=
  match meaning x with
  | .finite number => signText number.negative ++ taggedSize (shortest .even number)
  | _ => "null"

/-- The quotient rounded to a whole number, halves to the even neighbour. -/
def roundEven (top bottom : Nat) : Nat :=
  let whole := top / bottom
  let rest := top % bottom
  if 2 * rest < bottom then whole
  else if bottom < 2 * rest then whole + 1
  else if whole % 2 = 0 then whole else whole + 1

def fixed (places : Nat) (x : Float) : String :=
  match meaning x with
  | .notANumber => "NaN"
  | .infinite negative => signText negative ++ "inf"
  | .finite number =>
      let exact := Fraction.ofBinary number.mantissa number.exponent
      let scale := Nat.pow 10 places
      let scaled := roundEven (exact.top * scale) exact.bottom
      let digits := Nat.toDigits 10 (scaled % scale)
      signText number.negative ++ toString (scaled / scale) ++ "." ++
        zeros (places - digits.length) ++ String.ofList digits

end LiveList.Decimal
