/-!
JSON values. Whole numbers that fit 64 bits are kept apart from all other numbers, which are
doubles. Fields of an object are unique and in the order of their names.
-/

namespace LiveList

/-- Numbers with a sign go from `-signedLimit` up to below `signedLimit`. -/
abbrev signedLimit : Nat := UInt64.size / 2

inductive Json where
  | null
  | bool (value : Bool)
  /-- A whole number that fits 64 bits, with or without a sign. -/
  | integer (value : Int)
  /-- Any other number; always finite. -/
  | float (value : Float)
  | string (value : String)
  | list (items : List Json)
  | object (fields : List (String × Json))
  deriving Inhabited

namespace Json

def insertField (name : String) (value : Json) : List (String × Json) → List (String × Json)
  | [] => [(name, value)]
  | field :: rest =>
      if name = field.1 then (name, value) :: rest
      else if name < field.1 then (name, value) :: field :: rest
      else field :: insertField name value rest

/-- The object with the given fields; of two fields with one name the later one counts. -/
def ofFields (fields : List (String × Json)) : Json :=
  .object (fields.foldl (fun done field => insertField field.1 field.2 done) [])

def field? (value : Json) (name : String) : Option Json :=
  match value with
  | .object fields => fields.lookup name
  | _ => none

/-- The value of a field, where a field that holds null counts as not given. -/
def given? (value : Json) (name : String) : Option Json :=
  match value.field? name with
  | some .null => none
  | other => other

def string? : Json → Option String
  | .string value => some value
  | _ => none

def bool? : Json → Option Bool
  | .bool value => some value
  | _ => none

def signed? : Json → Option Int
  | .integer value => if value < signedLimit then some value else none
  | _ => none

def natural? : Json → Option Nat
  | .integer value => if 0 ≤ value then some value.toNat else none
  | _ => none

def double? : Json → Option Float
  | .integer value => some (Float.ofInt value)
  | .float value => some value
  | _ => none

def ofNat (value : Nat) : Json := .integer value

end Json

end LiveList
