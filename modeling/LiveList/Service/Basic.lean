import LiveList.Hub.Basic
import LiveList.Queue.Basic
import LiveList.Request.Subscription
import LiveList.Search.Basic
import LiveList.Share.Basic
import LiveList.View.Attached

/-!
The service: lists of items that all clients share, the sessions of the clients, and the views that
are open on the lists. What is sent to clients is collected in the order in which it was sent.
-/

namespace LiveList

inductive ListName where
  | bundles
  | roots
  | hubs
  /-- The results of the search of a session. -/
  | results (session : Nat)
  deriving DecidableEq, Repr

inductive Listener where
  /-- Sends the changes to a session, as far as it has subscribed to them. -/
  | forwarder (session : Nat)
  | view (id : Nat)
  deriving DecidableEq, Repr

structure Feed (Owner : Type) where
  owner : Owner
  signal : Signal Listener := {}

structure BoundView where
  name : String
  session : Nat
  list : ListName
  attached : AttachedView Nat := {}
  /-- The connection that tears the view down at the end of the session. -/
  closing : ConnectionId

structure EventNames where
  added : String
  removed : String
  updated : String

structure Modules where
  queueForwarder : ConnectionId
  queueEvents : Subscriptions
  shareForwarder : ConnectionId
  shareEvents : Subscriptions
  bundleView : Nat
  rootView : Nat
  hubView : Nat
  resultView : Nat

structure Session where
  connected : Bool := true
  /-- The views to tear down when the client goes away. -/
  closing : Signal Nat := {}
  search : Feed Search := { owner := {} }
  modules : Option Modules := none

structure Push where
  session : Nat
  event : String
  data : Json

structure Service where
  queue : Feed Queue := { owner := {} }
  share : Feed Share := { owner := {} }
  hubs : Feed HubList := { owner := {} }
  /-- All sessions there ever were, by number. -/
  sessions : List Session := []
  views : List (Nat × BoundView) := []
  nextView : Nat := 0
  /-- All changes that were reported of the lists, whether anyone listened or not. -/
  reported : List (ListName × ItemEvent) := []
  sent : List Push := []

namespace EventNames

def queue : EventNames :=
  ⟨"queue_bundle_added", "queue_bundle_removed", "queue_bundle_updated"⟩

def share : EventNames :=
  ⟨"share_root_created", "share_root_removed", "share_root_updated"⟩

def all (names : EventNames) : List String := [names.added, names.removed, names.updated]

def of (names : EventNames) : ItemEvent → String
  | .added _ => names.added
  | .removed _ => names.removed
  | .updated _ _ => names.updated

end EventNames

namespace Service

def modifySession (service : Service) (session : Nat) (change : Session → Session) : Service :=
  { service with sessions := service.sessions.modify session change }

def search (service : Service) (session : Nat) : Search :=
  ((service.sessions[session]?).map (·.search.owner)).getD {}

def modules? (service : Service) (session : Nat) : Option Modules :=
  (service.sessions[session]?).bind (·.modules)

def view? (service : Service) (id : Nat) : Option BoundView := Assoc.get? service.views id

def modifyView (service : Service) (id : Nat) (change : BoundView → BoundView) : Service :=
  match service.view? id with
  | some bound => { service with views := Assoc.set id (change bound) service.views }
  | none => service

def handler (service : Service) : ListName → Handler Nat
  | .bundles => Bundle.handler.comap service.queue.owner.read
  | .roots => ShareRoot.handler.comap service.share.owner.read
  | .hubs => FavoriteHub.handler.comap service.hubs.owner.read
  | .results session => SearchResult.handler.comap (service.search session).results.read

def listed (service : Service) : ListName → List Nat
  | .bundles => service.queue.owner.tokens
  | .roots => service.share.owner.tokens
  | .hubs => service.hubs.owner.tokens
  | .results session => (service.search session).results.tokens

def signal (service : Service) : ListName → Signal Listener
  | .bundles => service.queue.signal
  | .roots => service.share.signal
  | .hubs => service.hubs.signal
  | .results session => ((service.sessions[session]?).map (·.search.signal)).getD {}

def setSignal (service : Service) (list : ListName) (signal : Signal Listener) : Service :=
  match list with
  | .bundles => { service with queue := { service.queue with signal } }
  | .roots => { service with share := { service.share with signal } }
  | .hubs => { service with hubs := { service.hubs with signal } }
  | .results session =>
      service.modifySession session fun session =>
        { session with search := { session.search with signal } }

/-- Sends an event to a session. To a client that is gone nothing is sent. -/
def push (service : Service) (session : Nat) (event : String) (data : Json) : Service :=
  if (service.sessions[session]?).any (·.connected) then
    { service with sent := service.sent ++ [{ session, event, data }] }
  else service

end Service

end LiveList
