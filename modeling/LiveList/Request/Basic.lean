import LiveList.Request.Error
import LiveList.Request.Field
import LiveList.Text.Blank

/-!
Requests and responses. A request has a method, a path and a body; its path is a list of segments,
none of which is empty.
-/

namespace LiveList

structure Request where
  method : String
  path : List String
  /-- Null if there is none. -/
  body : Json := .null

structure Response where
  status : Nat
  body : Option Json

namespace Request

def isMethodChar (c : Char) : Bool := c.isAlphanum || "!#$%&'*+-.^_`|~".toList.contains c

def isMethod (text : String) : Bool := !text.isEmpty && text.toList.all isMethodChar

def segments (path : String) : List String :=
  ((Text.split (· == '/') path.toList).filter fun part => !part.isEmpty).map String.ofList

def ofPath (method path : String) (body : Json) : Request :=
  { method, path := segments path, body }

variable {Value : Type}

def readField (name : String) (read : Field.Reader Value) (found : Json) :
    Except RequestError Value :=
  match read found with
  | .ok value => .ok value
  | .error message => .error (.invalidField name message)

def optional (request : Request) (name : String) (read : Field.Reader Value) :
    Except RequestError (Option Value) :=
  match request.body.given? name with
  | none => .ok none
  | some found => (readField name read found).map some

def field (request : Request) (name : String) (read : Field.Reader Value) :
    Except RequestError Value := do
  match ← request.optional name read with
  | some value => pure value
  | none => throw (.invalidField name "field is required")

/-- A field that may be left out, or hold null, which is something else. -/
def nullable (request : Request) (name : String) (read : Field.Reader Value) :
    Except RequestError (Option (Option Value)) :=
  match request.body.field? name with
  | none => .ok none
  | some .null => .ok (some none)
  | some found => (readField name read found).map fun value => some (some value)

end Request

namespace Response

def ok (body : Json) : Response := { status := 200, body := some body }

def noContent : Response := { status := 204, body := none }

def ofError (error : RequestError) : Response :=
  { status := error.status, body := some error.body }

def isSuccess (response : Response) : Bool := 200 ≤ response.status && response.status < 300

end Response

end LiveList
