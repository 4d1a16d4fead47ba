import LiveList.Decimal.Numeral
import LiveList.Json.Reader
import LiveList.Regex.Basic
import LiveList.Regex.CharClass

/-!
Reading a written pattern into an expression. Each reader takes the characters that are left and
gives what it read and what follows; a malformed pattern gives nothing. Look-around and references
to groups are no part of the notation.
-/

namespace LiveList.Regex

structure Flags where
  ignoreCase : Bool := false
  multiLine : Bool := false
  dotAll : Bool := false
  unicode : Bool := true
  spaced : Bool := false
  crlf : Bool := false
  deriving DecidableEq, Repr

/-- What was read of a pattern: the expression, how deep it is nested, about how many bytes it takes
with its repetitions written out, and whether a repetition may follow it. -/
structure Piece where
  regex : Regex
  depth : Nat := 0
  weight : Nat := 0
  repeatable : Bool := true

def nestingLimit : Nat := 250

def weightLimit : Nat := 10 * 1024 * 1024

def literalWeight : Nat := 80

def dotWeight : Nat := 700

/-- The weight of a class by the letter that names it: word characters and characters with a
property have many ranges, blanks only a few. -/
def escapeWeight (letter : Char) : Nat :=
  match letter.toLower with
  | 'w' | 'p' => 50000
  | 'd' => 4000
  | 's' => 1000
  | _ => literalWeight

def skipComments : Bool → List Char → List Char
  | _, [] => []
  | true, c :: rest => skipComments (c != '\n') rest
  | false, c :: rest =>
      if c == '#' then skipComments true rest
      else if Text.isBlank c then skipComments false rest
      else c :: rest

def skipSpaced (flags : Flags) (text : List Char) : List Char :=
  if flags.spaced then skipComments false text else text

def readBraced (flags : Flags) (text : List Char) : Option (List Char × List Char) :=
  match text.dropWhile (· != '\x7d') with
  | _ :: rest =>
      some ((text.takeWhile (· != '\x7d')).filter fun c => !(flags.spaced && Text.isBlank c), rest)
  | [] => none

def literalClass (flags : Flags) (c : Char) : CharClass :=
  if flags.ignoreCase then
    if flags.unicode then fun x => Text.sameFolded x c
    else CharClass.foldedAscii (· == c)
  else (· == c)

/-- A class with the case switch applied and then, if asked for, complemented. Complements of
single bytes could match half a character and are refused. -/
def finishClass (flags : Flags) (negated : Bool) (accepts : CharClass) : Option CharClass :=
  if negated && !flags.unicode then none
  else
    let accepts :=
      if flags.ignoreCase then
        if flags.unicode then accepts.folded else CharClass.foldedAscii accepts
      else accepts
    some (if negated then accepts.complement else accepts)

/-- Digits, blanks or word characters, by letter; capitals stand for the complement. -/
def shorthandClass? (flags : Flags) (letter : Char) : Option CharClass :=
  let accepts :=
    match letter.toLower with
    | 'd' => if flags.unicode then Text.isDecimalDigit else isDigitAscii
    | 's' => if flags.unicode then Text.isBlank else isSpaceAscii
    | _ => if flags.unicode then Text.isWord else isWordAscii
  if letter.isUpper then if flags.unicode then some (CharClass.complement accepts) else none
  else some accepts

def scalar? (code : Nat) : Option Char :=
  if code < 0xD800 ∨ (0xDFFF < code ∧ code < 0x110000) then some (Char.ofNat code) else none

def readHexDigits (flags : Flags) : Nat → Nat → List Char → Option (Nat × List Char)
  | 0, value, text => some (value, text)
  | count + 1, value, text =>
      match text with
      | c :: rest => do
          let digit ← Json.hexValue? c
          readHexDigits flags count (value * 16 + digit) (skipSpaced flags rest)
      | [] => none

def readHexBraced (flags : Flags) (text : List Char) : Option (Nat × List Char) := do
  let (digits, rest) ← readBraced flags text
  let values ← digits.mapM Json.hexValue?
  if values.isEmpty then none
  else
    let value := values.foldl (fun value digit => value * 16 + digit) 0
    if value < UInt32.size then some (value, rest) else none

def readHexEscape (flags : Flags) (width : Nat) (text : List Char) : Option (Char × List Char) := do
  let text := skipSpaced flags text
  let (code, rest) ←
    match text with
    | '\x7b' :: rest => readHexBraced flags rest
    | text => readHexDigits flags width 0 text
  let c ← scalar? code
  some (c, skipSpaced flags rest)

def splitAtMark (mark : List Char) : List Char → Option (List Char × List Char)
  | [] => none
  | c :: rest =>
      if mark.isPrefixOf (c :: rest) then some ([], (c :: rest).drop mark.length)
      else (splitAtMark mark rest).map fun found => (c :: found.1, found.2)

/-- The class after `\p`, before case and complement. The flag says that it is complemented by a
`!=` of its own. -/
def readProperty (flags : Flags) (text : List Char) : Option (CharClass × Bool × List Char) :=
  match skipSpaced flags text with
  | '\x7b' :: rest =>
      match readBraced flags rest with
      | some (name, rest) =>
          let valued (mark : String) : Option (String × String) :=
            (splitAtMark mark.toList name).map fun found =>
              (String.ofList found.1, String.ofList found.2)
          match valued "!=" with
          | some (property, value) => (valuedClass? property value).map (·, true, rest)
          | none =>
              match valued ":" <|> valued "=" with
              | some (property, value) => (valuedClass? property value).map (·, false, rest)
              | none => (namedClass? (String.ofList name)).map (·, false, rest)
      | none => none
  | '\\' :: _ => none
  | c :: rest =>
      (namedClass? (String.ofList [c])).map (·, false, skipSpaced flags rest)
  | [] => none

def isMeta (c : Char) : Bool :=
  "\\.+*?()|[]\x7b\x7d^$#&-~".toList.contains c

def isEscapable (c : Char) : Bool :=
  isMeta c || (c.toNat < 0x80 && !c.isAlphanum && c != '<' && c != '>')

inductive Escape where
  | char (c : Char)
  | chars (accepts : CharClass)
  | place (holds : Option Char → Option Char → Bool)

def wordEdge (isWord : CharClass) (before after : Option Char) : Bool :=
  before.any isWord != after.any isWord

def wordStart (isWord : CharClass) (before after : Option Char) : Bool :=
  !before.any isWord && after.any isWord

def wordEnd (isWord : CharClass) (before after : Option Char) : Bool :=
  before.any isWord && !after.any isWord

def namedEdge? (isWord : CharClass) : String → Option (Option Char → Option Char → Bool)
  | "start" => some (wordStart isWord)
  | "end" => some (wordEnd isWord)
  | "start-half" => some fun before _ => !before.any isWord
  | "end-half" => some fun _ after => !after.any isWord
  | _ => none

def isEdgeName (c : Char) : Bool := c.isAlpha || c == '-'

def readEscape (flags : Flags) : List Char → Option (Escape × List Char)
  | [] => none
  | c :: rest =>
      let isWord := if flags.unicode then Text.isWord else isWordAscii
      match c with
      | 'x' => (readHexEscape flags 2 rest).map fun found => (.char found.1, found.2)
      | 'u' => (readHexEscape flags 4 rest).map fun found => (.char found.1, found.2)
      | 'U' => (readHexEscape flags 8 rest).map fun found => (.char found.1, found.2)
      | 'p' | 'P' => do
          if !flags.unicode then none
          else
            let (accepts, negated, rest) ← readProperty flags rest
            let accepts ← finishClass flags (negated != (c == 'P')) accepts
            some (.chars accepts, rest)
      | 'd' | 's' | 'w' | 'D' | 'S' | 'W' =>
          (shorthandClass? flags c).map fun accepts => (.chars accepts, rest)
      | 'a' => some (.char (Char.ofNat 7), rest)
      | 'f' => some (.char (Char.ofNat 12), rest)
      | 't' => some (.char '\t', rest)
      | 'n' => some (.char '\n', rest)
      | 'r' => some (.char '\r', rest)
      | 'v' => some (.char (Char.ofNat 11), rest)
      | 'A' => some (.place fun before _ => before.isNone, rest)
      | 'z' => some (.place fun _ after => after.isNone, rest)
      | 'B' => some (.place fun before after => !wordEdge isWord before after, rest)
      | '<' => some (.place (wordStart isWord), rest)
      | '>' => some (.place (wordEnd isWord), rest)
      | 'b' =>
          match rest with
          | '\x7b' :: inside =>
              match skipSpaced flags inside with
              | [] => none
              | first :: _ =>
                  if isEdgeName first then do
                    let (name, rest) ← readBraced flags inside
                    let holds ← namedEdge? isWord (String.ofList name)
                    some (.place holds, rest)
                  else some (.place (wordEdge isWord), rest)
          | _ => some (.place (wordEdge isWord), rest)
      | _ => if isEscapable c then some (.char c, rest) else none

inductive ClassOperator where
  | intersection
  | difference
  | symmetric
  deriving DecidableEq

/-- Two classes combined; ignoring case widens both first. -/
def combineClasses (flags : Flags) (operator : ClassOperator) (left right : CharClass) :
    CharClass :=
  let widen (accepts : CharClass) : CharClass := (finishClass flags false accepts).getD accepts
  let left := widen left
  let right := widen right
  match operator with
  | .intersection => fun c => left c && right c
  | .difference => fun c => left c && !right c
  | .symmetric => fun c => left c != right c

/-- What was read of a class: the operand left of the last operator, the operator, the items since
then, and the depth of what they nest. -/
structure ClassState where
  left : Option (CharClass × ClassOperator) := none
  items : List CharClass := []
  depth : Nat := 0

def ClassState.add (state : ClassState) (accepts : CharClass) : ClassState :=
  { state with items := accepts :: state.items }

def ClassState.total (flags : Flags) (state : ClassState) : CharClass :=
  let items := CharClass.union state.items
  match state.left with
  | none => items
  | some (left, operator) => combineClasses flags operator left items

def ClassState.nesting (state : ClassState) : Nat :=
  let inner := if state.items.length ≥ 2 then state.depth + 1 else state.depth
  if state.left.isSome then inner + 1 else inner

def ClassState.apply (flags : Flags) (state : ClassState) (operator : ClassOperator) : ClassState :=
  { left := some (state.total flags, operator), items := [], depth := state.nesting }

def readAsciiClass (flags : Flags) (text : List Char) : Option (CharClass × List Char) :=
  match text with
  | ':' :: rest =>
      let (negated, rest) :=
        match rest with
        | '^' :: rest => (true, rest)
        | _ => (false, rest)
      match rest.dropWhile (· != ':') with
      | ':' :: ']' :: after => do
          let accepts ← asciiClass? (String.ofList (rest.takeWhile (· != ':')))
          let accepts ← finishClass flags negated accepts
          some (accepts, after)
      | _ => none
  | _ => none

def readClassItem (flags : Flags) : List Char → Option (Escape × List Char)
  | [] => none
  | '\\' :: rest => readEscape flags rest
  | c :: rest => some (.char c, rest)

def classLiteral? (flags : Flags) (c : Char) : Option Char :=
  if flags.unicode || c.toNat < 0x80 then some c else none

def readClassRange (flags : Flags) (text : List Char) : Option (CharClass × List Char) := do
  let (first, rest) ← readClassItem flags text
  let rest := skipSpaced flags rest
  let single : Option (CharClass × List Char) :=
    match first with
    | .char c => (classLiteral? flags c).map fun c => ((· == c), rest)
    | .chars accepts => some (accepts, rest)
    | .place _ => none
  match rest with
  | [] => none
  | '-' :: after =>
      let next := skipSpaced flags after
      match next with
      -- Here the hyphen is no range: it is an item or part of an operator, read next.
      | ']' :: _ | '-' :: _ => single
      | [] => none
      | _ => do
          let (last, rest) ← readClassItem flags next
          match first, last with
          | .char low, .char high => do
              let low ← classLiteral? flags low
              let high ← classLiteral? flags high
              if high < low then none else some (CharClass.range low high, rest)
          | _, _ => none
  | _ => single

/-- The hyphens at the start of a class and a closing bracket as first item are ordinary
characters. -/
def openClass (flags : Flags) : Nat → ClassState → List Char → Option (ClassState × List Char)
  | 0, _, _ => none
  | fuel + 1, state, text =>
      match skipSpaced flags text with
      | '-' :: rest => openClass flags fuel (state.add (· == '-')) rest
      | ']' :: rest =>
          if state.items.isEmpty then some (state.add (· == ']'), rest)
          else some (state, ']' :: rest)
      | rest => some (state, rest)

mutual

def readClass (flags : Flags) : Nat → List Char → Option (CharClass × Nat × List Char)
  | 0, _ => none
  | fuel + 1, text =>
      let (negated, body) :=
        match skipSpaced flags text with
        | '^' :: rest => (true, rest)
        | rest => (false, rest)
      match openClass flags (body.length + 1) {} body with
      | some (state, rest) => readClassItems flags fuel negated state rest
      | none => none

def readClassItems (flags : Flags) :
    Nat → Bool → ClassState → List Char → Option (CharClass × Nat × List Char)
  | 0, _, _, _ => none
  | fuel + 1, negated, state, text =>
      match skipSpaced flags text with
      | [] => none
      | ']' :: rest => do
          let accepts ← finishClass flags negated (state.total flags)
          some (accepts, state.nesting + 1, rest)
      | '[' :: rest =>
          match readAsciiClass flags rest with
          | some (accepts, rest) => readClassItems flags fuel negated (state.add accepts) rest
          | none => do
              let (accepts, depth, rest) ← readClass flags fuel rest
              readClassItems flags fuel negated
                { state.add accepts with depth := max state.depth depth } rest
      | '&' :: '&' :: rest =>
          readClassItems flags fuel negated (state.apply flags .intersection) rest
      | '-' :: '-' :: rest =>
          readClassItems flags fuel negated (state.apply flags .difference) rest
      | '~' :: '~' :: rest =>
          readClassItems flags fuel negated (state.apply flags .symmetric) rest
      | rest => do
          let (accepts, rest) ← readClassRange flags rest
          readClassItems flags fuel negated (state.add accepts) rest

end

def readDigits (flags : Flags) : Nat → List Char → List Char → List Char × List Char
  | fuel + 1, done, c :: rest =>
      if c.isDigit then readDigits flags fuel (c :: done) (skipSpaced flags rest)
      else (done.reverse, c :: rest)
  | _, done, text => (done.reverse, text)

def readCount (flags : Flags) (text : List Char) : Option (Option Nat × List Char) :=
  let text := text.dropWhile Text.isBlank
  let (digits, rest) := readDigits flags (text.length + 1) [] text
  let rest := rest.dropWhile Text.isBlank
  if digits.isEmpty then some (none, rest)
  else
    let value := Decimal.digitsValue digits
    if value < UInt32.size then some (some value, rest) else none

def readBounds (flags : Flags) (text : List Char) : Option (Nat × Option Nat × List Char) := do
  let (least, rest) ← readCount flags (skipSpaced flags text)
  let least ← least
  match rest with
  | ',' :: rest =>
      match skipSpaced flags rest with
      | '\x7d' :: rest => some (least, none, rest)
      | rest => do
          let (most, rest) ← readCount flags rest
          let most ← most
          match rest with
          | '\x7d' :: rest => if most < least then none else some (least, some most, rest)
          | _ => none
  | '\x7d' :: rest => some (least, some least, rest)
  | _ => none

/-- A question mark after a repetition changes which match is preferred, and nothing here. -/
def skipLazy : List Char → List Char
  | '?' :: rest => rest
  | rest => rest

def repeatLast (least : Nat) (most : Option Nat) : List Piece → Option (List Piece)
  | [] => none
  | piece :: rest =>
      if piece.repeatable then
        let copies := max 1 (most.getD least)
        some ({ regex := .repeated piece.regex least most
                depth := piece.depth + 1
                weight := copies * piece.weight } :: rest)
      else none

def joinPieces (pieces : List Piece) : Piece :=
  let depth := (pieces.map (·.depth)).foldl max 0
  { regex := concat (pieces.reverse.map (·.regex))
    depth := if pieces.length ≥ 2 then depth + 1 else depth
    weight := pieces.foldl (fun sum piece => sum + piece.weight) 0 }

def joinBranches (branches : List Piece) : Piece :=
  let depth := (branches.map (·.depth)).foldl max 0
  { regex := anyOf (branches.reverse.map (·.regex))
    depth := if branches.length ≥ 2 then depth + 1 else depth
    weight := branches.foldl (fun sum branch => sum + branch.weight) 0 }

def setFlag (flags : Flags) (on : Bool) : Char → Option Flags
  | 'i' => some { flags with ignoreCase := on }
  | 'm' => some { flags with multiLine := on }
  | 's' => some { flags with dotAll := on }
  | 'U' => some flags
  | 'u' => some { flags with unicode := on }
  | 'x' => some { flags with spaced := on }
  | 'R' => some { flags with crlf := on }
  | _ => none

/-- The letters of a group's switches up to `:` or `)`, which is given back too. No letter may come
twice, and a hyphen must be followed by one. -/
def readFlags (flags : Flags) : Bool → List Char → List Char →
    Option (Flags × Bool × Char × List Char)
  | _, _, [] => none
  | on, seen, c :: rest =>
      if c = ':' ∨ c = ')' then
        if !on && seen.head? == some '-' then none else some (flags, seen.isEmpty, c, rest)
      else if c = '-' then
        if on then readFlags flags false ('-' :: seen) rest else none
      else if seen.contains c then none
      else
        match setFlag flags on c with
        | some flags => readFlags flags on (c :: seen) rest
        | none => none

def isNameChar (first : Bool) (c : Char) : Bool :=
  if first then c == '_' || Text.isAlphabetic c
  else
    c == '_' || c == '.' || c == '[' || c == ']' || Text.isAlphabetic c ||
      match Text.category c with
      | .decimalNumber | .letterNumber | .otherNumber => true
      | _ => false

def readGroupName (text : List Char) : Option (List Char × List Char) :=
  let name := text.takeWhile (· != '>')
  match name, text.dropWhile (· != '>') with
  | first :: rest, _ :: after =>
      if isNameChar true first && rest.all (isNameChar false) then some (name, after) else none
  | _, _ => none

def lineStart (crlf : Bool) (before after : Option Char) : Bool :=
  before.isNone || before == some '\n' || (crlf && before == some '\r' && after != some '\n')

def lineEnd (crlf : Bool) (before after : Option Char) : Bool :=
  after.isNone || (if crlf then after == some '\r' || (after == some '\n' && before != some '\r')
    else after == some '\n')

def dotClass (flags : Flags) : Option CharClass :=
  if !flags.unicode then none
  else if flags.dotAll then some fun _ => true
  else if flags.crlf then some fun c => c != '\n' && c != '\r'
  else some fun c => c != '\n'

def readAtom (flags : Flags) : List Char → Option (Piece × List Char)
  | [] => none
  | '.' :: rest =>
      (dotClass flags).map fun accepts => ({ regex := .one accepts, weight := dotWeight }, rest)
  | '^' :: rest =>
      let holds := if flags.multiLine then lineStart flags.crlf else fun before _ => before.isNone
      some ({ regex := .assertion holds }, rest)
  | '$' :: rest =>
      let holds := if flags.multiLine then lineEnd flags.crlf else fun _ after => after.isNone
      some ({ regex := .assertion holds }, rest)
  | '\\' :: rest => do
      let letter := rest.headD '\\'
      let (escape, rest) ← readEscape flags rest
      match escape with
      | .char c => do
          let c ← classLiteral? flags c
          some ({ regex := .one (literalClass flags c), weight := literalWeight }, rest)
      | .chars accepts =>
          some ({ regex := .one accepts, weight := escapeWeight letter }, rest)
      | .place holds => some ({ regex := .assertion holds }, rest)
  | c :: rest => do
      let c ← classLiteral? flags c
      some ({ regex := .one (literalClass flags c), weight := literalWeight }, rest)

inductive GroupStart where
  | switches (flags : Flags)
  | group (flags : Flags) (names : List (List Char))

def readGroupStart (flags : Flags) (names : List (List Char)) (text : List Char) :
    Option (GroupStart × List Char) :=
  let named (rest : List Char) : Option (GroupStart × List Char) := do
    let (name, rest) ← readGroupName rest
    if names.contains name then none else some (.group flags (name :: names), rest)
  match skipSpaced flags text with
  | '?' :: '=' :: _ | '?' :: '!' :: _ | '?' :: '<' :: '=' :: _ | '?' :: '<' :: '!' :: _ => none
  | '?' :: 'P' :: '<' :: rest => named rest
  | '?' :: '<' :: rest => named rest
  | '?' :: rest => do
      let (changed, bare, last, rest) ← readFlags flags true [] rest
      if last = ')' then if bare then none else some (.switches changed, rest)
      else some (.group changed names, rest)
  | rest => some (.group flags names, rest)

/-- Branches up to the end of the pattern, or inside a group up to its closing parenthesis.
`branches` and `pieces` hold what was read, last first. -/
def readBranches : Nat → Bool → Flags → List (List Char) → List Piece → List Piece → List Char →
    Option (Piece × List (List Char) × List Char)
  | 0, _, _, _, _, _, _ => none
  | fuel + 1, inside, flags, names, branches, pieces, text =>
      let finish (rest : List Char) := (joinBranches (joinPieces pieces :: branches), names, rest)
      match skipSpaced flags text with
      | [] => if inside then none else some (finish [])
      | ')' :: rest => if inside then some (finish rest) else none
      | '|' :: rest => readBranches fuel inside flags names (joinPieces pieces :: branches) [] rest
      | '(' :: rest =>
          match readGroupStart flags names rest with
          | none => none
          -- Switches hold up to the end of the group they stand in.
          | some (.switches changed, rest) =>
              readBranches fuel inside changed names branches
                ({ regex := nothing, repeatable := false } :: pieces) rest
          | some (.group inner names, rest) =>
              match readBranches fuel true inner names [] [] rest with
              | none => none
              | some (piece, names, rest) =>
                  let piece := { piece with depth := piece.depth + 1, repeatable := true }
                  readBranches fuel inside flags names branches (piece :: pieces) rest
      | '[' :: rest =>
          match readClass flags (2 * rest.length + 2) rest with
          | none => none
          | some (accepts, depth, after) =>
              -- How many ranges a class has is judged by the length of its text.
              let weight := literalWeight + 16 * (rest.length - after.length)
              readBranches fuel inside flags names branches
                ({ regex := .one accepts, depth, weight } :: pieces) after
      | '*' :: rest =>
          (repeatLast 0 none pieces).bind fun pieces =>
            readBranches fuel inside flags names branches pieces (skipLazy rest)
      | '+' :: rest =>
          (repeatLast 1 none pieces).bind fun pieces =>
            readBranches fuel inside flags names branches pieces (skipLazy rest)
      | '?' :: rest =>
          (repeatLast 0 (some 1) pieces).bind fun pieces =>
            readBranches fuel inside flags names branches pieces (skipLazy rest)
      | '\x7b' :: rest =>
          match readBounds flags rest with
          | none => none
          | some (least, most, rest) =>
              (repeatLast least most pieces).bind fun pieces =>
                readBranches fuel inside flags names branches pieces
                  (skipLazy (skipSpaced flags rest))
      | rest =>
          match readAtom flags rest with
          | none => none
          | some (piece, rest) =>
              readBranches fuel inside flags names branches (piece :: pieces) rest

def ofPattern? (flags : Flags) (pattern : String) : Option Regex :=
  let text := pattern.toList
  match readBranches (text.length + 2) false flags [] [] [] text with
  | some (piece, _, _) =>
      if piece.depth ≤ nestingLimit ∧ piece.weight ≤ weightLimit then some piece.regex else none
  | none => none

end LiveList.Regex
