import LiveList.Request.Route
import LiveList.View.Command

/-!
Requests to a view. The topic of their paths is the name of the view.
-/

namespace LiveList

inductive ViewAction where
  | addFilter
  | setFilter
  | removeFilter
  | configure
  | reset
  | page
  deriving DecidableEq, Repr

namespace ViewAction

def routes (view : String) : List (Route ViewAction) := [
  ⟨"POST", view, [.exact "filter"], addFilter⟩,
  ⟨"PUT", view, [.exact "filter", .token], setFilter⟩,
  ⟨"DELETE", view, [.exact "filter", .token], removeFilter⟩,
  ⟨"POST", view, [.exact "settings"], configure⟩,
  ⟨"DELETE", view, [], reset⟩,
  ⟨"GET", view, [.exact "items", .number, .number], page⟩]

def command (action : ViewAction) (captured : Captured) (body : Json) :
    Except RequestError ViewCommand :=
  match action with
  | addFilter => .ok (.addFilter body)
  | setFilter => (captured.token 0).map fun id => .setFilter id body
  | removeFilter => (captured.token 0).map .removeFilter
  | configure => .ok (.configure body)
  | reset => .ok .reset
  | page => do
      let start ← captured.place 0
      let stop ← captured.place 1
      pure (.page start stop)

end ViewAction

def ViewAnswer.response : ViewAnswer → Except RequestError Response
  | .done | .flushed _ => .ok .noContent
  | .filter id => .ok (.ok (Json.ofFields [("id", .ofNat id)]))
  | .items page => .ok (.ok (.list page))
  | .failed error => .error (.view error)

end LiveList
