import LiveList.Decimal.Numeral
import LiveList.Request.Basic

/-!
Routes. A route stands for the requests with one method whose paths have one shape: a topic, and
after it fixed words and places for what the request is about.
-/

namespace LiveList

inductive Segment where
  | exact (word : String)
  /-- The token of an item. -/
  | token
  | number
  | name
  deriving DecidableEq, Repr

structure Route (Action : Type) where
  method : String
  topic : String
  shape : List Segment
  /-- What is asked for. -/
  action : Action

/-- The segments of a path that stand in places of its route, in order. -/
structure Captured where
  values : List String := []
  deriving DecidableEq, Repr

namespace Segment

def accepts (segment : Segment) (text : String) : Bool :=
  match segment with
  | exact word => word == text
  | token | number => !text.isEmpty && text.toList.all Char.isDigit
  | name => !text.isEmpty

def isFixed : Segment → Bool
  | exact _ => true
  | token | number | name => false

def acceptAll : List Segment → List String → Bool
  | [], [] => true
  | segment :: shape, text :: path => segment.accepts text && acceptAll shape path
  | _, _ => false

def capture (shape : List Segment) (path : List String) : List String :=
  ((shape.zip path).filter fun pair => !pair.1.isFixed).map (·.2)

end Segment

namespace Captured

def get? (captured : Captured) (index : Nat) : Option String := captured.values[index]?

/-- A number below `limit`; a plus sign may stand before it. -/
def readNumber? (limit : Nat) (text : String) : Option Nat :=
  let digits :=
    match text.toList with
    | '+' :: rest => rest
    | all => all
  if !digits.isEmpty && digits.all Char.isDigit then
    let value := Decimal.digitsValue digits
    if value < limit then some value else none
  else none

def number (captured : Captured) (limit index : Nat) : Except RequestError Nat :=
  match captured.get? index with
  | none => .error (.badRequest ("Missing path parameter " ++ toString index))
  | some text =>
      match readNumber? limit text with
      | some value => .ok value
      | none => .error (.badRequest ("Invalid path parameter '" ++ text ++ "'"))

def token (captured : Captured) (index : Nat) : Except RequestError Nat :=
  captured.number UInt32.size index

def place (captured : Captured) (index : Nat) : Except RequestError Nat :=
  captured.number UInt64.size index

end Captured

namespace Route

variable {Action Other : Type}

def fits (route : Route Action) (topic : String) (path : List String) : Bool :=
  route.topic == topic && Segment.acceptAll route.shape path

def map (change : Action → Other) (route : Route Action) : Route Other :=
  { method := route.method, topic := route.topic, shape := route.shape
    action := change route.action }

def choose (routes : List (Route Action)) (method : String) (path : List String) :
    Except RequestError (Action × Captured) :=
  match path with
  | [] => .error (.notFound "Missing path section")
  | topic :: rest =>
      let fitting := routes.filter fun route => route.fits topic rest
      match fitting.find? fun route => route.method == method with
      | some route => .ok (route.action, { values := Segment.capture route.shape rest })
      | none =>
          -- A path that fits with another method tells the two failures apart.
          if fitting.isEmpty then
            .error (.notFound ("Invalid path '" ++ String.intercalate "/" path ++ "'"))
          else .error (.methodNotAllowed method)

end Route

end LiveList
