import LiveList.Decimal.Numeral
import LiveList.Json.Basic

/-!
Reading JSON texts. Every reader takes the characters that are left and gives a value together with
what follows it, or nothing if the text is malformed there.
-/

namespace LiveList.Json

def depthLimit : Nat := 127

def isSpace (c : Char) : Bool := c == ' ' || c == '\n' || c == '\t' || c == '\r'

def skipSpace (text : List Char) : List Char := text.dropWhile isSpace

def hexValue? (c : Char) : Option Nat :=
  if '0' ≤ c ∧ c ≤ '9' then some (c.toNat - 48)
  else if 'a' ≤ c ∧ c ≤ 'f' then some (c.toNat - 87)
  else if 'A' ≤ c ∧ c ≤ 'F' then some (c.toNat - 55)
  else none

def readUnit : List Char → Option (Nat × List Char)
  | a :: b :: c :: d :: rest => do
      let a ← hexValue? a
      let b ← hexValue? b
      let c ← hexValue? c
      let d ← hexValue? d
      some (((a * 16 + b) * 16 + c) * 16 + d, rest)
  | _ => none

/-- The character after `\u`: one unit, or two that make up a pair. -/
def readEscapedUnit (text : List Char) : Option (Char × List Char) := do
  let (unit, rest) ← readUnit text
  if unit < 0xD800 ∨ 0xDFFF < unit then some (Char.ofNat unit, rest)
  else if unit < 0xDC00 then
    match rest with
    | '\\' :: 'u' :: rest => do
        let (second, rest) ← readUnit rest
        if 0xDC00 ≤ second ∧ second ≤ 0xDFFF then
          some (Char.ofNat (0x10000 + (unit - 0xD800) * 0x400 + (second - 0xDC00)), rest)
        else none
    | _ => none
  else none

def escapedChar? : Char → Option Char
  | '"' => some '"'
  | '\\' => some '\\'
  | '/' => some '/'
  | 'b' => some (Char.ofNat 8)
  | 'f' => some (Char.ofNat 12)
  | 'n' => some '\n'
  | 'r' => some '\r'
  | 't' => some '\t'
  | _ => none

/-- The rest of a string after its opening quote. `done` holds its characters so far, last first;
the fuel bounds the number of characters. -/
def readStringBody : Nat → List Char → List Char → Option (String × List Char)
  | 0, _, _ => none
  | fuel + 1, done, text =>
      match text with
      | [] => none
      | '"' :: rest => some (String.ofList done.reverse, rest)
      | '\\' :: 'u' :: rest => do
          let (c, rest) ← readEscapedUnit rest
          readStringBody fuel (c :: done) rest
      | '\\' :: c :: rest => do
          let c ← escapedChar? c
          readStringBody fuel (c :: done) rest
      | c :: rest => if c.toNat < 0x20 then none else readStringBody fuel (c :: done) rest

def readExponent (text : List Char) : Option (Int × List Char) :=
  let (negative, body) :=
    match text with
    | '-' :: rest => (true, rest)
    | '+' :: rest => (false, rest)
    | _ => (false, text)
  let digits := body.takeWhile Char.isDigit
  if digits.isEmpty then none
  else
    let size := Decimal.digitsValue digits
    some (if negative then -(size : Int) else size, body.dropWhile Char.isDigit)

/-- A number without fraction and exponent: whole if it fits 64 bits, else a double. The negative
zero is a double too. -/
def wholeNumber (negative : Bool) (digits : List Char) : Option Json :=
  let (word, left) := Decimal.fitWord 0 digits
  if left = 0 then
    if negative then
      if word = 0 then some (.float (-0.0))
      else if word ≤ signedLimit then some (.integer (-(word : Int)))
      else some (.float (-(Float.ofNat word)))
    else some (.integer word)
  else (Decimal.scaled? word left).map fun size => .float (if negative then -size else size)

/-- A number with a fraction or an exponent. Digits that no longer fit a 64-bit word are cut off:
before the point they still count as places, after it they are without effect. -/
def fractionNumber (negative : Bool) (whole fraction : List Char) (exponent : Int) : Option Json :=
  let (head, left) := Decimal.fitWord 0 whole
  let (word, cut) := Decimal.fitWord head fraction
  -- Places cut off before the point are made up for, and those kept after it are taken back.
  let shift : Int := exponent + left - (fraction.length - cut : Nat)
  (Decimal.scaled? word shift).map fun size => .float (if negative then -size else size)

def readNumber (text : List Char) : Option (Json × List Char) :=
  let (negative, body) :=
    match text with
    | '-' :: rest => (true, rest)
    | _ => (false, text)
  let whole := body.takeWhile Char.isDigit
  let rest := body.dropWhile Char.isDigit
  if whole.isEmpty || (whole.length > 1 && whole.head? == some '0') then none
  else
    match rest with
    | '.' :: rest =>
        let fraction := rest.takeWhile Char.isDigit
        let rest := rest.dropWhile Char.isDigit
        if fraction.isEmpty then none
        else
          match rest with
          | 'e' :: rest | 'E' :: rest => do
              let (exponent, rest) ← readExponent rest
              let number ← fractionNumber negative whole fraction exponent
              some (number, rest)
          | _ => (fractionNumber negative whole fraction 0).map (·, rest)
    | 'e' :: rest | 'E' :: rest => do
        let (exponent, rest) ← readExponent rest
        let number ← fractionNumber negative whole [] exponent
        some (number, rest)
    | _ => (wholeNumber negative whole).map (·, rest)

mutual

/-- One value. The fuel bounds the nesting of calls, `depth` the lists and objects still allowed
inside one another. -/
def readValue : Nat → Nat → List Char → Option (Json × List Char)
  | 0, _, _ => none
  | fuel + 1, depth, text =>
      match skipSpace text with
      | 'n' :: 'u' :: 'l' :: 'l' :: rest => some (.null, rest)
      | 't' :: 'r' :: 'u' :: 'e' :: rest => some (.bool true, rest)
      | 'f' :: 'a' :: 'l' :: 's' :: 'e' :: rest => some (.bool false, rest)
      | '"' :: rest => (readStringBody (rest.length + 1) [] rest).map fun found =>
          (.string found.1, found.2)
      | '[' :: rest =>
          if depth = 0 then none
          else
            match skipSpace rest with
            | ']' :: rest => some (.list [], rest)
            | rest => do
                let (items, rest) ← readItems fuel (depth - 1) [] rest
                some (.list items, rest)
      | '\x7b' :: rest =>
          if depth = 0 then none
          else
            match skipSpace rest with
            | '\x7d' :: rest => some (.object [], rest)
            | rest => do
                let (fields, rest) ← readFields fuel (depth - 1) [] rest
                some (ofFields fields, rest)
      | rest => readNumber rest

def readItems : Nat → Nat → List Json → List Char → Option (List Json × List Char)
  | 0, _, _, _ => none
  | fuel + 1, depth, done, text => do
      let (item, rest) ← readValue fuel depth text
      match skipSpace rest with
      | ',' :: rest => readItems fuel depth (item :: done) rest
      | ']' :: rest => some ((item :: done).reverse, rest)
      | _ => none

def readFields : Nat → Nat → List (String × Json) → List Char →
    Option (List (String × Json) × List Char)
  | 0, _, _, _ => none
  | fuel + 1, depth, done, text =>
      match skipSpace text with
      | '"' :: rest => do
          let (name, rest) ← readStringBody (rest.length + 1) [] rest
          match skipSpace rest with
          | ':' :: rest => do
              let (value, rest) ← readValue fuel depth rest
              match skipSpace rest with
              | ',' :: rest => readFields fuel depth ((name, value) :: done) rest
              | '\x7d' :: rest => some (((name, value) :: done).reverse, rest)
              | _ => none
          | _ => none
      | _ => none

end

def read? (text : List Char) : Option Json :=
  match readValue (2 * text.length + 2) depthLimit text with
  | some (value, rest) => if (skipSpace rest).isEmpty then some value else none
  | none => none

/-- The fields of a text that is exactly one object, as written: in order and with repetitions. -/
def readWrittenFields? (text : List Char) : Option (List (String × Json)) :=
  match skipSpace text with
  | '\x7b' :: rest =>
      match skipSpace rest with
      | '\x7d' :: rest => if (skipSpace rest).isEmpty then some [] else none
      | rest =>
          match readFields (2 * text.length + 2) (depthLimit - 1) [] rest with
          | some (fields, rest) => if (skipSpace rest).isEmpty then some fields else none
          | none => none
  | _ => none

end LiveList.Json
