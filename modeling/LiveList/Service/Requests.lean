import LiveList.Hub.Routes
import LiveList.Queue.Routes
import LiveList.Search.Routes
import LiveList.Service.Session
import LiveList.Share.Routes

/-!
Requests of clients. The first segment of a path names a module, and the rest is matched against
the routes of that module: those of its view, those of its events, and its own.
-/

namespace LiveList

inductive ModuleName where
  | queue
  | shareRoots
  | favoriteHubs
  | search
  deriving DecidableEq, Repr

namespace ModuleName

def all : List ModuleName := [queue, shareRoots, favoriteHubs, search]

def text : ModuleName → String
  | queue => "queue"
  | shareRoots => "share_roots"
  | favoriteHubs => "favorite_hubs"
  | search => "search"

def ofText? (text : String) : Option ModuleName := all.find? fun name => name.text == text

end ModuleName

inductive EventAction where
  | subscribe
  | unsubscribe
  deriving DecidableEq, Repr

inductive ModuleAction (Events Own : Type) where
  | view (action : ViewAction)
  | events (action : Events)
  | own (action : Own)
  deriving DecidableEq, Repr

namespace ModuleAction

variable {Events Own : Type}

def routes (view : String) (events : List (Route Events)) (own : List (Route Own)) :
    List (Route (ModuleAction Events Own)) :=
  (ViewAction.routes view).map (·.map .view) ++ events.map (·.map .events) ++
    own.map (·.map .own)

end ModuleAction

namespace EventAction

def routes : List (Route EventAction) := [
  ⟨"POST", "listener", [.name], subscribe⟩,
  ⟨"DELETE", "listener", [.name], unsubscribe⟩]

def apply (action : EventAction) (captured : Captured) (subscriptions : Subscriptions) :
    Except RequestError Subscriptions :=
  let name := (captured.get? 0).getD ""
  match action with
  | subscribe => subscriptions.subscribe name
  | unsubscribe => subscriptions.unsubscribe name

end EventAction

def queueRoutes : List (Route (ModuleAction EventAction QueueAction)) :=
  ModuleAction.routes "bundle_view" EventAction.routes QueueAction.routes

def shareRoutes : List (Route (ModuleAction EventAction ShareAction)) :=
  ModuleAction.routes "root_view" EventAction.routes ShareAction.routes

def hubRoutes : List (Route (ModuleAction Empty HubAction)) :=
  ModuleAction.routes "favorite_hub_view" [] HubAction.routes

def searchRoutes : List (Route (ModuleAction Empty SearchAction)) :=
  ModuleAction.routes "search_view" [] SearchAction.routes

def Response.ofOutcome : Except RequestError Response → Response
  | .ok response => response
  | .error error => .ofError error

namespace Service

/-- Goes on with what was read of a request, or refuses the request. What was done before stays
done. -/
def proceed {Value : Type} (service : Service) (read : Except RequestError Value)
    (next : Value → Service × Except RequestError Response) :
    Service × Except RequestError Response :=
  match read with
  | .ok value => next value
  | .error error => (service, .error error)

def serveView (service : Service) (id : Nat) (action : ViewAction) (captured : Captured)
    (body : Json) : Service × Except RequestError Response :=
  service.proceed (action.command captured body) fun command =>
    let (service, answer) := service.perform id command
    (service, answer.response)

def setModules (service : Service) (session : Nat) (modules : Modules) : Service :=
  service.modifySession session fun state => { state with modules := some modules }

def answer {Owner : Type}
    (publish : Published Owner (Except RequestError Response) → Service)
    (published : Published Owner (Except RequestError Response)) :
    Service × Except RequestError Response :=
  (publish published, published.result)

def serveEvents (service : Service) (session : Nat) (action : EventAction) (captured : Captured)
    (subscriptions : Subscriptions) (put : Subscriptions → Modules) :
    Service × Except RequestError Response :=
  service.proceed (action.apply captured subscriptions) fun subscriptions =>
    (service.setModules session (put subscriptions), .ok .noContent)

/-- Sends a request where its route in a module leads: to the view of the module, to its events or
to its own actions. -/
def serveModule {Events Own : Type} (service : Service)
    (routes : List (Route (ModuleAction Events Own))) (view : Nat) (request : Request)
    (path : List String) (events : Events → Captured → Service × Except RequestError Response)
    (own : Own → Captured → Service × Except RequestError Response) :
    Service × Except RequestError Response :=
  service.proceed (Route.choose routes request.method path) fun (action, captured) =>
    match action with
    | .view action => service.serveView view action captured request.body
    | .events action => events action captured
    | .own action => own action captured

def serveQueue (service : Service) (now session : Nat) (modules : Modules) (request : Request)
    (path : List String) : Service × Except RequestError Response :=
  service.serveModule queueRoutes modules.bundleView request path
    (fun action captured =>
      service.serveEvents session action captured modules.queueEvents fun queueEvents =>
        { modules with queueEvents })
    fun action captured =>
      answer service.publishQueue (service.queue.owner.serve now action captured request)

def serveShare (service : Service) (session : Nat) (modules : Modules) (request : Request)
    (path : List String) : Service × Except RequestError Response :=
  service.serveModule shareRoutes modules.rootView request path
    (fun action captured =>
      service.serveEvents session action captured modules.shareEvents fun shareEvents =>
        { modules with shareEvents })
    fun action captured =>
      answer service.publishShare (service.share.owner.serve action captured request)

def serveHubs (service : Service) (modules : Modules) (request : Request) (path : List String) :
    Service × Except RequestError Response :=
  service.serveModule hubRoutes modules.hubView request path (fun none _ => none.elim)
    fun action captured =>
      answer service.publishHubs (service.hubs.owner.serve action captured request)

def serveSearch (service : Service) (session : Nat) (modules : Modules) (request : Request)
    (path : List String) : Service × Except RequestError Response :=
  service.serveModule searchRoutes modules.resultView request path (fun none _ => none.elim)
    fun action captured =>
      answer (service.publishSearch session)
        ((service.search session).serve action captured request)

def serve (service : Service) (now session : Nat) (request : Request) :
    Service × Except RequestError Response :=
  match request.path with
  | [] => (service, .error (.notFound "Missing module name"))
  | name :: path =>
      match ModuleName.ofText? name, service.modules? session with
      | some .queue, some modules => service.serveQueue now session modules request path
      | some .shareRoots, some modules => service.serveShare session modules request path
      | some .favoriteHubs, some modules => service.serveHubs modules request path
      | some .search, some modules => service.serveSearch session modules request path
      | _, _ => (service, .error (.notFound ("No such module: " ++ name)))

def handle (service : Service) (now session : Nat) (request : Request) : Service × Response :=
  let (service, outcome) := service.serve now session request
  (service, .ofOutcome outcome)

/-- Handles a request to a single view, whose name is the topic of its path. -/
def handleView (service : Service) (id : Nat) (request : Request) : Service × Response :=
  let name := ((service.view? id).map (·.name)).getD ""
  let (service, outcome) :=
    service.proceed (Route.choose (ViewAction.routes name) request.method request.path)
      fun (action, captured) => service.serveView id action captured request.body
  (service, .ofOutcome outcome)

end Service

end LiveList
