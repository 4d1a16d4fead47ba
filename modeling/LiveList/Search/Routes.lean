import LiveList.Request.Route
import LiveList.Search.Basic

/-!
Requests to a search.
-/

namespace LiveList

inductive SearchAction where
  | start
  | page
  | clear
  | get
  deriving DecidableEq, Repr

namespace SearchAction

def routes : List (Route SearchAction) := [
  ⟨"POST", "search", [], start⟩,
  ⟨"GET", "results", [.number, .number], page⟩,
  ⟨"POST", "results", [.exact "clear"], clear⟩,
  ⟨"GET", "result", [.token], get⟩]

end SearchAction

namespace Search

def serve (search : Search) (action : SearchAction) (captured : Captured) (request : Request) :
    Published Search (Except RequestError Response) :=
  match action with
  | .start =>
      let asked := do
        let query ← request.field "query" Field.text
        if (Text.trim query.toList).isEmpty then
          throw (.invalidField "query" "the query can't be empty")
        else pure query
      .proceed search asked fun query => (search.start query).respond (.ok .noContent)
  | .page =>
      .unchanged search <| Response.ok <$> do
        let start ← captured.place 0
        let count ← captured.place 1
        pure (SearchResult.handler.listJson (search.results.page start count))
  | .clear =>
      let cleared := search.clear
      cleared.respond (.ok (.ok (Json.ofFields [("count", .ofNat cleared.result)])))
  | .get =>
      .unchanged search <| Response.ok <$> do
        let token ← captured.token 0
        match search.results.get? token with
        | some result => pure (SearchResult.handler.itemJson result)
        | none => throw (.notFound ("Result " ++ toString token ++ " not found"))

end Search

end LiveList
