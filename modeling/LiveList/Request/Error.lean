import LiveList.Json.Basic
import LiveList.Error

/-!
Why a request was refused. The reason decides the status of the response and what its body says.
-/

namespace LiveList

inductive RequestError where
  | badRequest (message : String)
  /-- A field of the body is missing or does not hold what it should. -/
  | invalidField (field message : String)
  | notFound (message : String)
  /-- The path exists, but not for this method. -/
  | methodNotAllowed (method : String)
  | view (error : ViewError)
  | source (error : SourceError)
  deriving DecidableEq, Repr

def ErrorKind.status : ErrorKind → Nat
  | .validation | .state => 400
  | .notFound => 404

namespace RequestError

def message : RequestError → String
  | badRequest message | notFound message => message
  | invalidField field message => "Field '" ++ field ++ "': " ++ message
  | methodNotAllowed method => "Method " ++ method ++ " not supported for this path"
  | view error => error.message
  | source error => error.message

def status : RequestError → Nat
  | badRequest _ | invalidField _ _ => 400
  | notFound _ => 404
  | methodNotAllowed _ => 405
  | view error => error.kind.status
  | source error => error.kind.status

def field? : RequestError → Option String
  | invalidField field _ => some field
  | view (.invalidValue field _) => some field
  | source (.invalidField field _) | source (.duplicate field _) => some field
  | _ => none

def body (error : RequestError) : Json :=
  Json.ofFields (("message", .string error.message) ::
    (error.field?.map fun field => ("field", Json.string field)).toList)

theorem status_eq (error : RequestError) :
    error.status = 400 ∨ error.status = 404 ∨ error.status = 405 := by
  cases error with
  | view error => cases kind : error.kind <;> simp [status, kind, ErrorKind.status]
  | source error => cases kind : error.kind <;> simp [status, kind, ErrorKind.status]
  | _ => simp [status]

end RequestError

end LiveList
