/-!
What can be wrong with a request to a view or with an operation on some items, and the class of
every error, from which the status of a response follows.
-/

namespace LiveList

inductive ErrorKind where
  | validation
  | notFound
  | state
  deriving DecidableEq, Repr

def ErrorKind.name : ErrorKind → String
  | .validation => "validation"
  | .notFound => "not_found"
  | .state => "state"

inductive ViewError where
  | invalidProperty (name : String)
  | invalidSortProperty (name : String)
  | negativeRangeStart
  | invalidFilterMethod (value : String)
  | invalidPattern (pattern : String) (detail : Option String)
  | invalidValue (field message : String)
  | filterNotFound (id : Nat)
  | notActive
  /-- The update timer could not be started. -/
  | timer (reason : String)
  deriving DecidableEq, Repr

namespace ViewError

def message : ViewError → String
  | invalidProperty name => "Invalid property: " ++ name
  | invalidSortProperty name => "Invalid sort property: " ++ name
  | negativeRangeStart => "Negative range start not allowed"
  | invalidFilterMethod value => "Invalid filter method: " ++ value
  | invalidPattern pattern none => "Invalid pattern '" ++ pattern ++ "'"
  | invalidPattern pattern (some detail) => "Invalid pattern '" ++ pattern ++ "': " ++ detail
  | invalidValue field message => "Invalid value for field '" ++ field ++ "': " ++ message
  | filterNotFound id => "Filter " ++ toString id ++ " not found"
  | notActive => "The view isn't active"
  | timer reason => "Update timer: could not spawn the timer thread (" ++ reason ++ ")"

def kind : ViewError → ErrorKind
  | filterNotFound _ => .notFound
  | notActive | timer _ => .state
  | _ => .validation

end ViewError

inductive SourceError where
  | notFound (kind : String) (id : String)
  | duplicate (field value : String)
  | invalidField (field message : String)
  | invalidState (message : String)
  deriving DecidableEq, Repr

namespace SourceError

def message : SourceError → String
  | notFound kind id => kind ++ " " ++ id ++ " not found"
  | duplicate field value => field ++ " '" ++ value ++ "' already exists"
  | invalidField field message => "Invalid value for field '" ++ field ++ "': " ++ message
  | invalidState message => message

def kind : SourceError → ErrorKind
  | notFound _ _ => .notFound
  | invalidState _ => .state
  | duplicate _ _ | invalidField _ _ => .validation

end SourceError

end LiveList
