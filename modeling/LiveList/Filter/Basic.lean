import LiveList.Filter.Threshold
import LiveList.Handler
import LiveList.Json.Writer
import LiveList.Regex.Pattern
import LiveList.Error

/-!
Filters: a pattern, the way it is matched, and the property it looks at. A filter is compiled once,
when it is set, and then tested against texts, numbers and items.
-/

namespace LiveList

/-! Wildcard patterns, written as regular expressions: `*` stands for any characters, `?` for one,
and all others for themselves. A wildcard pattern has to cover the whole text. -/

namespace Wildcard

def written (c : Char) : List Char :=
  if c = '*' then ['.', '*']
  else if c = '?' then ['.']
  else if Regex.isMeta c then ['\\', c]
  else [c]

def source (pattern : List Char) : List Char :=
  '^' :: pattern.flatMap written ++ ['$']

end Wildcard

inductive FilterMethod where
  /-- The pattern stands somewhere in the text. -/
  | substring
  /-- The pattern is the text. -/
  | exact
  /-- The pattern is a regular expression that matches somewhere in the text. -/
  | regex
  /-- The pattern covers the text with wildcards. -/
  | wildcard
  deriving DecidableEq, Repr

namespace FilterMethod

def id : FilterMethod → Nat
  | substring => 0
  | exact => 1
  | regex => 2
  | wildcard => 3

def ofId? : Nat → Option FilterMethod
  | 0 => some substring
  | 1 => some exact
  | 2 => some regex
  | 3 => some wildcard
  | _ => none

def ofName? : String → Option FilterMethod
  | "partial" => some substring
  | "exact" => some exact
  | "regex" => some regex
  | "wildcard" => some wildcard
  | _ => none

def ofJson (value : Json) : Except ViewError FilterMethod :=
  let method? := match value with
    | .string name => ofName? name
    | _ => value.natural?.bind ofId?
  match method? with
  | some method => .ok method
  | none => .error (.invalidFilterMethod value.write)

theorem ofId?_id (method : FilterMethod) : ofId? method.id = some method := by
  cases method <;> rfl

end FilterMethod

inductive FilterPattern where
  | text (pattern : String)
  | number (value : Float)

namespace FilterPattern

/-- Null stands for the empty pattern. -/
def ofJson (value : Json) : Except ViewError FilterPattern :=
  match value with
  | .string pattern => .ok (.text pattern)
  | .null => .ok (.text "")
  | _ =>
      match value.double? with
      | some value => .ok (.number value)
      | none => .error (.invalidValue "pattern" "expected a string or a number")

/-- A filter with an empty pattern passes everything. -/
def isEmpty : FilterPattern → Bool
  | text pattern => pattern.isEmpty
  | number _ => false

def asText : FilterPattern → String
  | text pattern => pattern
  | number value => Decimal.plain value

def threshold? : FilterPattern → Option Threshold
  | text pattern => Threshold.read? pattern
  | number value => some ⟨.equal, value⟩

end FilterPattern

inductive TextMatcher where
  | contains (lowered : List Char)
  | equals (lowered : List Char)
  | found (regex : Regex)

namespace TextMatcher

/-- A regular expression, written as `source`; if it cannot be read, it is `pattern` that is
refused. -/
def ofRegex (pattern source : String) : Except ViewError TextMatcher :=
  match Regex.ofPattern? { ignoreCase := true } source with
  | some regex => .ok (.found regex)
  | none => .error (.invalidPattern pattern none)

/-- Makes a pattern ready. Regular expressions can be malformed; and they are refused, as wildcard
patterns are, if they take too much room. -/
def compile (method : FilterMethod) (pattern : String) : Except ViewError TextMatcher :=
  match method with
  | .substring => .ok (.contains (Text.lower pattern.toList))
  | .exact => .ok (.equals (Text.lower pattern.toList))
  | .wildcard => ofRegex pattern (String.ofList (Wildcard.source pattern.toList))
  | .regex => ofRegex pattern pattern

def standsIn (part : List Char) : List Char → Bool
  | [] => part.isEmpty
  | c :: rest => part.isPrefixOf (c :: rest) || standsIn part rest

theorem standsIn_iff {part text : List Char} : standsIn part text = true ↔ part <:+: text := by
  induction text with
  | nil => simp [standsIn]
  | cons c rest ih =>
      rw [standsIn, Bool.or_eq_true, List.isPrefixOf_iff_prefix, ih, List.infix_cons_iff]

def holds (matcher : TextMatcher) (value : String) : Bool :=
  match matcher with
  | contains lowered => standsIn lowered (Text.lower value.toList)
  | equals lowered => Text.lower value.toList == lowered
  | found regex => regex.found value.toList

end TextMatcher

inductive FilterTarget where
  /-- Every property that is sorted as a text; one match is enough. -/
  | any
  | property (id : PropertyId)
  deriving DecidableEq, Repr

structure Filter where
  target : FilterTarget
  method : FilterMethod
  pattern : FilterPattern
  text : TextMatcher
  number : Option Threshold

namespace Filter

variable {Item : Type}

def compile (target : FilterTarget) (method : FilterMethod) (pattern : FilterPattern) :
    Except ViewError Filter := do
  let text ← TextMatcher.compile method pattern.asText
  pure { target, method, pattern, text, number := pattern.threshold? }

def targetOfJson (table : PropertyTable) (body : Json) : Except ViewError FilterTarget :=
  match (body.field? "property").bind Json.string? with
  | none => .error (.invalidValue "property" "field is missing")
  | some name =>
      if name = "any" then .ok .any
      else
        match table.named? name with
        | some property => .ok (.property property.id)
        | none => .error (.invalidProperty name)

/-- A filter request. An empty pattern is a request for no filter. -/
def ofJson (table : PropertyTable) (body : Json) : Except ViewError (Option Filter) := do
  let target ← targetOfJson table body
  let method ←
    match body.field? "method" with
    | some value => FilterMethod.ofJson value
    | none => pure .substring
  let pattern ← FilterPattern.ofJson ((body.field? "pattern").getD .null)
  -- Property and method were checked by now, although an empty pattern has no use for them.
  if pattern.isEmpty then pure none
  else
    let filter ← compile target method pattern
    pure (some filter)

def matchesText (filter : Filter) (value : String) : Bool := filter.text.holds value

/-- Nothing if the pattern cannot be read as a number. -/
def matchesNumber? (filter : Filter) (value : Float) : Option Bool :=
  filter.number.map fun threshold => threshold.holds value

/-- Whether a single property of an item matches. Numbers are compared as numbers where the pattern
is one, and everything else is matched by its text. -/
def matchesProperty (filter : Filter) (handler : Handler Item) (item : Item)
    (property : Property) : Bool :=
  let asText := filter.matchesText (handler.text item property.id)
  if property.wire = .custom then asText
  else if property.kind.isNumeric then
    (filter.matchesNumber? (handler.number item property.id)).getD asText
  else asText

def passes (filter : Filter) (handler : Handler Item) (item : Item) : Bool :=
  match filter.target with
  | .any =>
      handler.table.any fun property =>
        property.sort == .text && filter.matchesText (handler.text item property.id)
  | .property id =>
      match handler.table[id]? with
      | some property => filter.matchesProperty handler item property
      | none => false

def passAll (filters : List Filter) (handler : Handler Item) (item : Item) : Bool :=
  filters.all fun filter => filter.passes handler item

end Filter

end LiveList
