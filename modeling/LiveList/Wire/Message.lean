import LiveList.Json.Reader
import LiveList.Json.Writer
import LiveList.Service.Requests
import LiveList.Text.Blank

/-!
Messages between a client and the service, one JSON value in a line each. A client sends requests
and gets a response for each of them, and events in between.
-/

namespace LiveList

structure RequestLine where
  callbackId : Option Nat := none
  method : String
  path : String
  data : Json := .null

namespace RequestLine

def callbackId? : Json → Option (Option Nat)
  | .null => some none
  | value => value.natural?.map some

def isSingle (fields : List (String × Json)) (name : String) : Bool :=
  (fields.filter fun field => field.1 == name).length ≤ 1

/-- A request from the fields of an object as they are written; fields with other names are passed
over. -/
def ofFields? (fields : List (String × Json)) : Option RequestLine := do
  if ["callback_id", "method", "path", "data"].all (isSingle fields) then
    let callbackId ← callbackId? ((fields.lookup "callback_id").getD .null)
    let method ← (fields.lookup "method").bind Json.string?
    let path ← (fields.lookup "path").bind Json.string?
    some { callbackId, method, path, data := (fields.lookup "data").getD .null }
  else none

/-- A request from the items of a list, of which only the data may be left out. -/
def ofItems? (items : List Json) : Option RequestLine :=
  match items with
  | [callback, .string method, .string path] =>
      (callbackId? callback).map fun callbackId => { callbackId, method, path }
  | [callback, .string method, .string path, data] =>
      (callbackId? callback).map fun callbackId => { callbackId, method, path, data }
  | _ => none

def read? (text : List Char) : Option RequestLine :=
  match Json.readWrittenFields? text with
  | some fields => ofFields? fields
  | none =>
      match Json.read? text with
      | some (.list items) => ofItems? items
      | _ => none

end RequestLine

def Response.line (callbackId : Option Nat) (response : Response) : Json :=
  let body :=
    response.body.toList.map fun body =>
      (if response.isSuccess then "data" else "error", body)
  Json.ofFields ((callbackId.toList.map fun id => ("callback_id", Json.ofNat id)) ++
    [("code", .ofNat response.status)] ++ body)

def Push.line (push : Push) : Json :=
  Json.ofFields [("event", .string push.event), ("data", push.data)]

def RequestError.line (callbackId : Option Nat) (error : RequestError) : Json :=
  (Response.ofError error).line callbackId

def tooLongLine : Json := (RequestError.badRequest "Request line too long").line none

namespace Service

def handleLine (service : Service) (now session : Nat) (text : List Char) : Service × Json :=
  match RequestLine.read? text with
  | none => (service, (RequestError.badRequest "Invalid JSON").line none)
  | some request =>
      let method := String.ofList (request.method.toList.map Char.toUpper)
      if Request.isMethod method then
        let (service, response) :=
          service.handle now session (Request.ofPath method request.path request.data)
        (service, response.line request.callbackId)
      else
        let error := RequestError.badRequest ("Invalid method '" ++ request.method ++ "'")
        (service, error.line request.callbackId)

end Service

end LiveList
