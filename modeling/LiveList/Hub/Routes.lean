import LiveList.Hub.Basic
import LiveList.Request.Route

/-!
Requests to the favorite hubs.
-/

namespace LiveList

inductive HubAction where
  | page
  | add
  | get
  | update
  | remove
  deriving DecidableEq, Repr

namespace HubAction

def routes : List (Route HubAction) := [
  ⟨"GET", "hubs", [.number, .number], page⟩,
  ⟨"POST", "hub", [], add⟩,
  ⟨"GET", "hub", [.token], get⟩,
  ⟨"PATCH", "hub", [.token], update⟩,
  ⟨"DELETE", "hub", [.token], remove⟩]

end HubAction

namespace HubList

def requestedUpdate (request : Request) : Except RequestError HubUpdate := do
  let name ← request.optional "name" Field.text
  let url ← request.optional "hub_url" Field.text
  let description ← request.optional "hub_description" Field.text
  let autoConnect ← request.optional "auto_connect" Field.flag
  let shareProfile ← request.nullable "share_profile" Field.word32
  let nick ← request.optional "nick" Field.text
  let password ← request.optional "password" Field.text
  let userDescription ← request.optional "user_description" Field.text
  let ignorePrivateMessages ← request.optional "ignore_private_messages" Field.flag
  pure
    { name, url, description, autoConnect, shareProfile, nick, password, userDescription,
      ignorePrivateMessages }

def serve (hubs : HubList) (action : HubAction) (captured : Captured) (request : Request) :
    Published HubList (Except RequestError Response) :=
  match action with
  | .page =>
      .unchanged hubs <| Response.ok <$> do
        let start ← captured.place 0
        let count ← captured.place 1
        pure (FavoriteHub.handler.listJson (hubs.page start count))
  | .add =>
      let asked := do
        let update ← requestedUpdate request
        (hubs.addHub update).mapError .source
      .proceed hubs asked fun added =>
        added.respond (.ok (.ok (Json.ofFields [("id", .ofNat added.result)])))
  | .get =>
      .unchanged hubs <| Response.ok <$> do
        let token ← captured.token 0
        match hubs.get? token with
        | some hub => pure (FavoriteHub.handler.itemJson hub)
        | none => throw (.notFound ("Hub " ++ toString token ++ " not found"))
  | .update =>
      let asked := do
        let token ← captured.token 0
        let update ← requestedUpdate request
        (hubs.updateHub token update).mapError .source
      .proceed hubs asked (·.respond (.ok .noContent))
  | .remove =>
      let asked := do
        let token ← captured.token 0
        (hubs.removeHub token).mapError .source
      .proceed hubs asked (·.respond (.ok .noContent))

end HubList

end LiveList
