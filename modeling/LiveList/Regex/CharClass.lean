import LiveList.Text.Blank
import LiveList.Text.Category
import LiveList.Text.Fold
import LiveList.Text.Script

/-!
Character classes by name, and what ignoring case does to a class.
-/

namespace LiveList.Regex

abbrev CharClass := Char → Bool

namespace CharClass

def range (low high : Char) : CharClass := fun c => low ≤ c && c ≤ high

def union (classes : List CharClass) : CharClass := fun c => classes.any (· c)

def complement (accepts : CharClass) : CharClass := fun c => !accepts c

def folded (accepts : CharClass) : CharClass := fun c =>
  (Text.foldClass c).any accepts

def foldedAscii (accepts : CharClass) : CharClass := fun c =>
  accepts c || accepts c.toLower || accepts c.toUpper

end CharClass

def isDigitAscii (c : Char) : Bool := c.isDigit

def isSpaceAscii (c : Char) : Bool :=
  c == ' ' || (9 ≤ c.toNat && c.toNat ≤ 13)

def isWordAscii (c : Char) : Bool := c.isAlphanum || c == '_'

def isPunctAscii (c : Char) : Bool :=
  0x21 ≤ c.toNat && c.toNat ≤ 0x7E && !c.isAlphanum

def asciiClass? : String → Option CharClass
  | "alnum" => some fun c => c.isAlphanum
  | "alpha" => some fun c => c.isAlpha
  | "ascii" => some fun c => c.toNat ≤ 0x7F
  | "blank" => some fun c => c == ' ' || c == '\t'
  | "cntrl" => some fun c => c.toNat ≤ 0x1F || c.toNat == 0x7F
  | "digit" => some fun c => c.isDigit
  | "graph" => some fun c => 0x21 ≤ c.toNat && c.toNat ≤ 0x7E
  | "lower" => some fun c => c.isLower
  | "print" => some fun c => 0x20 ≤ c.toNat && c.toNat ≤ 0x7E
  | "punct" => some isPunctAscii
  | "space" => some isSpaceAscii
  | "upper" => some fun c => c.isUpper
  | "word" => some isWordAscii
  | "xdigit" => some fun c => c.isDigit || ('a' ≤ c && c ≤ 'f') || ('A' ≤ c && c ≤ 'F')
  | _ => none

open Text.Category in
def categoryNames : List (List String × List Text.Category) := [
  (["l", "letter"],
    [uppercaseLetter, lowercaseLetter, titlecaseLetter, modifierLetter, otherLetter]),
  (["lc", "casedletter"], [uppercaseLetter, lowercaseLetter, titlecaseLetter]),
  (["lu", "uppercaseletter"], [uppercaseLetter]),
  (["ll", "lowercaseletter"], [lowercaseLetter]),
  (["lt", "titlecaseletter"], [titlecaseLetter]),
  (["lm", "modifierletter"], [modifierLetter]),
  (["lo", "otherletter"], [otherLetter]),
  (["m", "mark", "combiningmark"], [nonspacingMark, spacingMark, enclosingMark]),
  (["mn", "nonspacingmark"], [nonspacingMark]),
  (["mc", "spacingmark"], [spacingMark]),
  (["me", "enclosingmark"], [enclosingMark]),
  (["n", "number"], [decimalNumber, letterNumber, otherNumber]),
  (["nd", "decimalnumber", "digit"], [decimalNumber]),
  (["nl", "letternumber"], [letterNumber]),
  (["no", "othernumber"], [otherNumber]),
  (["p", "punctuation", "punct"], [connectorPunctuation, dashPunctuation, openPunctuation,
    closePunctuation, initialPunctuation, finalPunctuation, otherPunctuation]),
  (["pc", "connectorpunctuation"], [connectorPunctuation]),
  (["pd", "dashpunctuation"], [dashPunctuation]),
  (["ps", "openpunctuation"], [openPunctuation]),
  (["pe", "closepunctuation"], [closePunctuation]),
  (["pi", "initialpunctuation"], [initialPunctuation]),
  (["pf", "finalpunctuation"], [finalPunctuation]),
  (["po", "otherpunctuation"], [otherPunctuation]),
  (["s", "symbol"], [mathSymbol, currencySymbol, modifierSymbol, otherSymbol]),
  (["sm", "mathsymbol"], [mathSymbol]),
  (["sc", "currencysymbol"], [currencySymbol]),
  (["sk", "modifiersymbol"], [modifierSymbol]),
  (["so", "othersymbol"], [otherSymbol]),
  (["z", "separator"], [spaceSeparator, lineSeparator, paragraphSeparator]),
  (["zs", "spaceseparator"], [spaceSeparator]),
  (["zl", "lineseparator"], [lineSeparator]),
  (["zp", "paragraphseparator"], [paragraphSeparator]),
  (["c", "other"], [control, format, surrogate, privateUse, unassigned]),
  (["cc", "control", "cntrl"], [control]),
  (["cf", "format"], [format]),
  (["cs", "surrogate"], [surrogate]),
  (["co", "privateuse"], [privateUse]),
  (["cn", "unassigned"], [unassigned])]

/-- A property name in lower case, without blanks, hyphens and underscores and without `is` in
front. -/
def looseName (name : String) : String :=
  let letters := (name.toList.filter fun c => !(c == ' ' || c == '-' || c == '_')).map Char.toLower
  match letters with
  | ['i', 's', 'c'] => "isc"
  | 'i' :: 's' :: rest => String.ofList rest
  | _ => String.ofList letters

def categoryClass? (name : String) : Option CharClass :=
  match name with
  | "any" => some fun _ => true
  | "ascii" => some fun c => c.toNat ≤ 0x7F
  | "assigned" => some fun c => Text.category c != .unassigned
  | _ => (categoryNames.find? fun entry => entry.1.contains name).map fun entry c =>
      entry.2.contains (Text.category c)

def scriptClass? (name : String) : Option CharClass :=
  (Text.scriptNamed? name).map fun code c => Text.script c == code

/-- The yes-or-no properties of characters that can be named. Others that Unicode has (`Emoji`,
`Math`, `Dash` and the like) are left out: their names are refused. -/
def binaryClass? : String → Option CharClass
  | "alphabetic" | "alpha" => some Text.isAlphabetic
  | "lowercase" | "lower" => some Text.isLowercase
  | "uppercase" | "upper" => some Text.isUppercase
  | "whitespace" | "wspace" | "space" => some Text.isBlank
  | "cased" => some Text.isCased
  | "caseignorable" | "ci" => some Text.isCaseIgnorable
  | "graphemeextend" | "grext" => some Text.isExtending
  | "hexdigit" | "hex" => some fun c =>
      let c := if 0xFF10 ≤ c.toNat then Char.ofNat (c.toNat - 0xFEE0) else c
      c.isDigit || ('a' ≤ c && c ≤ 'f') || ('A' ≤ c && c ≤ 'F')
  | "asciihexdigit" | "ahex" => asciiClass? "xdigit"
  | _ => none

/-- The class that a single property name stands for. Names of yes-or-no properties come first,
then categories, then scripts. -/
def namedClass? (name : String) : Option CharClass :=
  let name := looseName name
  let binary := if name == "sc" || name == "lc" || name == "cf" then none else binaryClass? name
  binary <|> categoryClass? name <|> scriptClass? name

/-- The class of the characters whose property has a value: a category or a script. The scripts
that a character extends to are taken to be the one it has, and ages and breaks are left out. -/
def valuedClass? (property value : String) : Option CharClass :=
  let value := looseName value
  match looseName property with
  | "generalcategory" | "gc" => categoryClass? value
  | "script" | "sc" | "scriptextensions" | "scx" => scriptClass? value
  | _ => none

end LiveList.Regex
