import LiveList.Request.Route
import LiveList.Share.Basic

/-!
Requests to the shared directories.
-/

namespace LiveList

inductive ShareAction where
  | list
  | add
  | update
  | remove
  | refresh
  deriving DecidableEq, Repr

namespace ShareAction

def routes : List (Route ShareAction) := [
  ⟨"GET", "roots", [], list⟩,
  ⟨"POST", "root", [], add⟩,
  ⟨"PATCH", "root", [.token], update⟩,
  ⟨"DELETE", "root", [.token], remove⟩,
  ⟨"POST", "root", [.token, .exact "refresh"], refresh⟩]

end ShareAction

namespace Share

def requestedUpdate (request : Request) : Except RequestError RootUpdate := do
  let virtualName ← request.optional "virtual_name" Field.text
  let profiles ← request.optional "profiles" Field.wordSet
  let incoming ← request.optional "incoming" Field.flag
  pure { virtualName, profiles, incoming }

def serve (share : Share) (action : ShareAction) (captured : Captured) (request : Request) :
    Published Share (Except RequestError Response) :=
  match action with
  | .list => .unchanged share (.ok (.ok (ShareRoot.handler.listJson share.items)))
  | .add =>
      let asked := do
        let path ← request.field "path" Field.text
        let update ← requestedUpdate request
        (share.addRoot path update).mapError .source
      .proceed share asked fun added =>
        added.respond (.ok (.ok (ShareRoot.handler.itemJson (added.owner.read added.result))))
  | .update =>
      let asked := do
        let update ← requestedUpdate request
        if update.isEmpty then throw (.badRequest "No fields to update")
        else
          let token ← captured.token 0
          let updated ← (share.updateRoot token update).mapError .source
          pure (token, updated)
      -- The root is looked up once more after its update.
      .proceed share asked fun (token, updated) =>
        updated.respond <|
          match updated.owner.get? token with
          | some root => .ok (.ok (ShareRoot.handler.itemJson root))
          | none => .error (.notFound ("Root " ++ toString token ++ " not found"))
  | .remove =>
      let asked := do
        let token ← captured.token 0
        (share.removeRoot token).mapError .source
      .proceed share asked (·.respond (.ok .noContent))
  | .refresh =>
      let asked := do
        let token ← captured.token 0
        (share.beginRefresh token).mapError .source
      .proceed share asked (·.respond (.ok (.ok (Json.ofFields [("queued", .bool true)]))))

end Share

end LiveList
