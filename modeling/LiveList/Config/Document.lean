import LiveList.Decimal.Numeral
import LiveList.Json.Reader

/-!
Reading configuration documents in TOML, as far as a flat list of settings goes: every line is
blank or gives one name a text or a whole number. Whatever else TOML has is refused, since no
setting can hold it.
-/

namespace LiveList

inductive SettingValue where
  | text (value : String)
  | whole (value : Int)
  deriving DecidableEq, Repr

namespace Document

def isBlank (c : Char) : Bool := c == ' ' || c == '\t'

def skipBlanks (text : List Char) : List Char := text.dropWhile isBlank

def isPlain (c : Char) : Bool := c == '\t' || (' ' ≤ c && c != Char.ofNat 0x7F)

def lineBreak? : List Char → Option (List Char)
  | '\n' :: rest => some rest
  | '\r' :: '\n' :: rest => some rest
  | _ => none

def lineEnd? (text : List Char) : Option (List Char) :=
  let rest :=
    match skipBlanks text with
    | '#' :: rest => rest.dropWhile isPlain
    | rest => rest
  if rest.isEmpty then some [] else lineBreak? rest

def readHex : Nat → Nat → List Char → Option (Nat × List Char)
  | 0, value, rest => some (value, rest)
  | count + 1, value, c :: rest => do
      let digit ← Json.hexValue? c
      readHex count (value * 16 + digit) rest
  | _ + 1, _, [] => none

def readCodePoint (count : Nat) (text : List Char) : Option (Char × List Char) := do
  let (code, rest) ← readHex count 0 text
  if code.isValidChar then some (Char.ofNat code, rest) else none

def readEscape : List Char → Option (Char × List Char)
  | 'b' :: rest => some (Char.ofNat 8, rest)
  | 't' :: rest => some ('\t', rest)
  | 'n' :: rest => some ('\n', rest)
  | 'f' :: rest => some (Char.ofNat 12, rest)
  | 'r' :: rest => some ('\r', rest)
  | '"' :: rest => some ('"', rest)
  | '\\' :: rest => some ('\\', rest)
  | 'u' :: rest => readCodePoint 4 rest
  | 'U' :: rest => readCodePoint 8 rest
  | _ => none

/-- How a text is enclosed: by which quote, whether backslashes escape, and whether it may have
several lines. -/
structure Enclosure where
  quote : Char
  escapes : Bool
  multiline : Bool

def skipBlankLines : List Char → List Char
  | '\r' :: '\n' :: rest => skipBlankLines rest
  | c :: rest => if isBlank c || c == '\n' then skipBlankLines rest else c :: rest
  | [] => []

/-- What a backslash at the end of a line swallows: the line break and all blanks and line breaks
after it. -/
def skipContinuation? (text : List Char) : Option (List Char) :=
  (lineBreak? (skipBlanks text)).map skipBlankLines

/-- The rest of a text after its opening quote. In a text of several lines up to two quotes that
stand before the closing three belong to the text. `done` holds the characters so far, last first;
the fuel bounds their number. -/
def readQuoted (enclosure : Enclosure) : Nat → List Char → List Char →
    Option (String × List Char)
  | 0, _, _ => none
  | fuel + 1, done, text =>
      match text with
      | [] => none
      | c :: rest =>
          if c = enclosure.quote then
            if enclosure.multiline then
              let quotes := (text.takeWhile (· == enclosure.quote)).length
              -- Up to five in a row: two that belong to the text and three that end it.
              if quotes < 3 then readQuoted enclosure fuel (c :: done) rest
              else if quotes ≤ 5 then
                some (String.ofList (done.reverse ++ List.replicate (quotes - 3) c),
                  text.drop quotes)
              else none
            else some (String.ofList done.reverse, rest)
          else if c = '\\' ∧ enclosure.escapes then
            match readEscape rest with
            | some (escaped, rest) => readQuoted enclosure fuel (escaped :: done) rest
            | none =>
                if enclosure.multiline then
                  match skipContinuation? rest with
                  | some rest => readQuoted enclosure fuel done rest
                  | none => none
                else none
          else if isPlain c then readQuoted enclosure fuel (c :: done) rest
          else if enclosure.multiline then
            match lineBreak? text with
            | some rest => readQuoted enclosure fuel ('\n' :: done) rest
            | none => none
          else none

/-- A text with its quotes. A line break directly after three opening quotes is left out. -/
def readText (multiline : Bool) (text : List Char) : Option (String × List Char) :=
  let open3 (enclosure : Enclosure) (rest : List Char) : Option (String × List Char) :=
    if multiline then readQuoted enclosure (text.length + 1) [] ((lineBreak? rest).getD rest)
    else none
  match text with
  | '"' :: '"' :: '"' :: rest => open3 ⟨'"', true, true⟩ rest
  | '\'' :: '\'' :: '\'' :: rest => open3 ⟨'\'', false, true⟩ rest
  | '"' :: rest => readQuoted ⟨'"', true, false⟩ (text.length + 1) [] rest
  | '\'' :: rest => readQuoted ⟨'\'', false, false⟩ (text.length + 1) [] rest
  | _ => none

def digitsValue? (base : Nat) (digits : List Char) : Option Nat :=
  let rec go (value : Nat) (expectDigit : Bool) : List Char → Option Nat
    | [] => if expectDigit then none else some value
    | '_' :: rest => if expectDigit then none else go value true rest
    | c :: rest =>
        match Json.hexValue? c with
        | some digit => if digit < base then go (value * base + digit) false rest else none
        | none => none
  go 0 true digits

/-- A whole number that fits a signed word of 64 bits. Decimal numbers may have a sign but no
leading zeros; hexadecimal, octal and binary ones have neither sign nor limit on zeros. -/
def wholeNumber? (text : List Char) : Option Int :=
  let inRange (value : Int) : Option Int :=
    if -signedLimit ≤ value ∧ value < signedLimit then some value else none
  let decimal (digits : List Char) : Option Nat :=
    match digits with
    | '0' :: _ :: _ => none
    | _ => digitsValue? 10 digits
  match text with
  | '0' :: 'x' :: rest => (digitsValue? 16 rest).bind fun value => inRange value
  | '0' :: 'o' :: rest => (digitsValue? 8 rest).bind fun value => inRange value
  | '0' :: 'b' :: rest => (digitsValue? 2 rest).bind fun value => inRange value
  | '-' :: rest => (decimal rest).bind fun value => inRange (-(value : Int))
  | '+' :: rest => (decimal rest).bind fun value => inRange value
  | rest => (decimal rest).bind fun value => inRange value

def isNameChar (c : Char) : Bool := c.isAlphanum || c == '_' || c == '-'

def readName (text : List Char) : Option (String × List Char) :=
  match text with
  | '"' :: _ | '\'' :: _ => readText false text
  | _ =>
      let name := text.takeWhile isNameChar
      if name.isEmpty then none else some (String.ofList name, text.dropWhile isNameChar)

def readValue (text : List Char) : Option (SettingValue × List Char) :=
  match text with
  | '"' :: _ | '\'' :: _ => (readText true text).map fun found => (.text found.1, found.2)
  | _ =>
      let isPart (c : Char) : Bool := isNameChar c || c == '+'
      (wholeNumber? (text.takeWhile isPart)).map fun value =>
        (.whole value, text.dropWhile isPart)

def readSetting (text : List Char) : Option ((String × SettingValue) × List Char) := do
  let (name, rest) ← readName text
  match skipBlanks rest with
  | '=' :: rest => do
      let (value, rest) ← readValue (skipBlanks rest)
      some ((name, value), rest)
  | _ => none

/-- The settings of all lines in order. No name is given twice. The fuel bounds the number of
lines. -/
def readLines : Nat → List (String × SettingValue) → List Char →
    Option (List (String × SettingValue))
  | 0, _, _ => none
  | fuel + 1, done, text =>
      if text.isEmpty then some done.reverse
      else
        match lineEnd? text with
        | some rest => readLines fuel done rest
        | none => do
            let (setting, rest) ← readSetting (skipBlanks text)
            let rest ← lineEnd? rest
            if done.any fun other => other.1 == setting.1 then none
            else readLines fuel (setting :: done) rest

def read? (text : List Char) : Option (List (String × SettingValue)) :=
  let body :=
    match text with
    | c :: rest => if c = Char.ofNat 0xFEFF then rest else text
    | [] => []
  readLines (body.length + 1) [] body

end Document

end LiveList
