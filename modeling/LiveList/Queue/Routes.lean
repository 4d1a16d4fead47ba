import LiveList.Queue.Basic
import LiveList.Request.Route

/-!
Requests to the download queue.
-/

namespace LiveList

inductive QueueAction where
  | page
  | removeFinished
  | setPriorityAll
  | get
  | remove
  | setPriority
  | addFile
  | addDirectory
  deriving DecidableEq, Repr

namespace QueueAction

def routes : List (Route QueueAction) := [
  ⟨"GET", "bundles", [.number, .number], page⟩,
  ⟨"POST", "bundles", [.exact "remove_finished"], removeFinished⟩,
  ⟨"POST", "bundles", [.exact "priority"], setPriorityAll⟩,
  ⟨"GET", "bundle", [.token], get⟩,
  ⟨"POST", "bundle", [.token, .exact "remove"], remove⟩,
  ⟨"PATCH", "bundle", [.token], setPriority⟩,
  ⟨"POST", "bundle", [.exact "file"], addFile⟩,
  ⟨"POST", "bundle", [.exact "directory"], addDirectory⟩]

end QueueAction

namespace Queue

def requestedPriority (request : Request) : Except RequestError Priority := do
  let id ← request.field "priority" Field.signed64
  match Priority.ofId? id with
  | some priority => pure priority
  | none => throw (.invalidField "priority" ("invalid priority " ++ toString id))

def requestedBundle (request : Request) (isFile : Bool) : Except RequestError NewBundle := do
  let name ← request.field "name" Field.text
  let target ← request.field "target" Field.text
  let size ← request.field "size" Field.word64
  match ← request.optional "priority" Field.signed64 with
  | some _ =>
      let priority ← requestedPriority request
      pure { name, target, size, isFile, priority }
  | none => pure { name, target, size, isFile }

def counted (published : Published Queue Nat) : Published Queue (Except RequestError Response) :=
  published.respond (.ok (.ok (Json.ofFields [("count", .ofNat published.result)])))

def addRequested (queue : Queue) (now : Nat) (request : Request) (isFile : Bool) :
    Published Queue (Except RequestError Response) :=
  let asked := do
    let params ← requestedBundle request isFile
    (queue.addBundle now params).mapError .source
  .proceed queue asked fun added =>
    added.respond (.ok (.ok (Bundle.handler.itemJson (added.owner.read added.result))))

def serve (queue : Queue) (now : Nat) (action : QueueAction) (captured : Captured)
    (request : Request) : Published Queue (Except RequestError Response) :=
  match action with
  | .page =>
      .unchanged queue <| Response.ok <$> do
        let start ← captured.place 0
        let count ← captured.place 1
        pure (Bundle.handler.listJson (queue.page start count))
  | .removeFinished => counted queue.removeFinished
  | .setPriorityAll =>
      .proceed queue (requestedPriority request) fun priority =>
        counted (queue.setPriorityAll priority)
  | .get =>
      .unchanged queue <| Response.ok <$> do
        let token ← captured.token 0
        match queue.get? token with
        | some bundle => pure (Bundle.handler.itemJson bundle)
        | none => throw (.notFound ("Bundle " ++ toString token ++ " not found"))
  | .remove =>
      let asked := do
        let token ← captured.token 0
        (queue.removeBundle token).mapError .source
      .proceed queue asked (·.respond (.ok .noContent))
  | .setPriority =>
      let asked := do
        let token ← captured.token 0
        let priority ← requestedPriority request
        (queue.setPriority token priority).mapError .source
      .proceed queue asked (·.respond (.ok .noContent))
  | .addFile => queue.addRequested now request true
  | .addDirectory => queue.addRequested now request false

end Queue

end LiveList
