import LiveList.Decimal.Numeral
import LiveList.Text.Blank
import LiveList.Text.Lowercase

/-!
Numeric patterns such as `>= 1.5 MiB`: a comparison, a number and a unit of 1024 to some power.
-/

namespace LiveList

inductive Comparison where
  | less
  | lessOrEqual
  | equal
  | greaterOrEqual
  | greater
  | notEqual
  deriving DecidableEq, Repr

namespace Comparison

/-- Whether two numbers compare this way. What is not a number only ever differs. -/
def holds : Comparison → Float → Float → Bool
  | less, a, b => a < b
  | lessOrEqual, a, b => a ≤ b
  | equal, a, b => a == b
  | greaterOrEqual, a, b => b ≤ a
  | greater, a, b => b < a
  | notEqual, a, b => a != b

def symbol : Comparison → String
  | less => "<"
  | lessOrEqual => "<="
  | equal => "="
  | greaterOrEqual => ">="
  | greater => ">"
  | notEqual => "!="

/-- The comparison a pattern starts with, and the rest of it. Of two operators that fit, the longer
one is meant. -/
def read? : List Char → Option (Comparison × List Char)
  | '<' :: '=' :: rest => some (lessOrEqual, rest)
  | '>' :: '=' :: rest => some (greaterOrEqual, rest)
  | '!' :: '=' :: rest => some (notEqual, rest)
  | '=' :: '=' :: rest => some (equal, rest)
  | '<' :: rest => some (less, rest)
  | '>' :: rest => some (greater, rest)
  | '=' :: rest => some (equal, rest)
  | _ => none

end Comparison

/-- A numeric pattern: numbers that compare to `value` in a given way. -/
structure Threshold where
  comparison : Comparison
  value : Float

namespace Threshold

def isNumberChar (c : Char) : Bool := c.isDigit || c == '.' || c == '-' || c == '+'

def unitPower? (unit : List Char) : Option Nat :=
  match String.ofList (Text.lowerAscii unit) with
  | "" | "b" => some 0
  | "k" | "kb" | "kib" => some 1
  | "m" | "mb" | "mib" => some 2
  | "g" | "gb" | "gib" => some 3
  | "t" | "tb" | "tib" => some 4
  | _ => none

def readSize? (text : List Char) : Option Float := do
  let numeral ← Decimal.Numeral.read? (text.takeWhile isNumberChar)
  let power ← unitPower? (Text.trim (text.dropWhile isNumberChar))
  some (numeral.nearest * Float.ofNat (Nat.pow 1024 power))

/-- Reads an optional comparison, a number and an optional unit; blanks may surround each of them.
Without a comparison, numbers equal to the value are meant. -/
def read? (pattern : String) : Option Threshold :=
  let text := Text.trim pattern.toList
  match Comparison.read? text with
  | some (comparison, rest) =>
      (readSize? (Text.trimStart rest)).map fun value => ⟨comparison, value⟩
  | none => (readSize? text).map fun value => ⟨.equal, value⟩

def holds (threshold : Threshold) (value : Float) : Bool :=
  threshold.comparison.holds value threshold.value

end Threshold

end LiveList
