/-!
A double as an exact number: a sign and an integer times a power of two.
-/

namespace LiveList.Decimal

/-- The number `mantissa · 2 ^ exponent`, negated if `negative`. `tight` says that the next
smaller double is only half as far away as the next larger one. -/
structure Binary where
  negative : Bool
  mantissa : Nat
  exponent : Int
  tight : Bool
  deriving Repr

inductive Meaning where
  | notANumber
  | infinite (negative : Bool)
  | finite (number : Binary)
  deriving Repr

def meaning (x : Float) : Meaning :=
  let bits := x.toBits.toNat
  let negative := bits / Nat.pow 2 63 == 1
  let field : Nat := bits / Nat.pow 2 52 % Nat.pow 2 11
  let fraction : Nat := bits % Nat.pow 2 52
  if field = 2047 then
    if fraction = 0 then .infinite negative else .notANumber
  else if field = 0 then .finite ⟨negative, fraction, -1074, false⟩
  else
    .finite
      ⟨negative, fraction + Nat.pow 2 52, Int.ofNat field - 1075, fraction == 0 && field != 1⟩

def isWhole (x : Float) : Bool :=
  match meaning x with
  | .finite number =>
      if number.exponent < 0 then number.mantissa % Nat.pow 2 (-number.exponent).toNat == 0
      else true
  | _ => false

def truncate (x : Float) : Int :=
  match meaning x with
  | .finite number =>
      let size :=
        if number.exponent < 0 then number.mantissa / Nat.pow 2 (-number.exponent).toNat
        else number.mantissa * Nat.pow 2 number.exponent.toNat
      if number.negative then -(size : Int) else size
  | _ => 0

end LiveList.Decimal
