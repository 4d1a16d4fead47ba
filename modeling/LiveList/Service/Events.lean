import LiveList.Service.Basic

/-!
How the changes of a list reach those who listen: views take note of them, and sessions are sent
those that they have subscribed to.
-/

namespace LiveList

/-- What is sent of a change: an added item with all its properties, of a changed one those that
changed, and of a removed one the token alone. -/
def ItemEvent.data (handler : Handler Nat) : ItemEvent → Json
  | .added token => handler.itemJson token
  | .removed token => Json.ofFields [("id", .ofNat (handler.key token))]
  | .updated token changed =>
      Json.ofFields (handler.fields changed token ++ [("id", .ofNat (handler.key token))])

namespace ListView

def hearEvent (handler : Handler Nat) (event : ItemEvent) (view : ListView Nat) : ListView Nat :=
  match event with
  | .added token => view.hearAdded handler token
  | .removed token => view.hearRemoved handler token
  | .updated token changed => view.hearUpdated handler token changed

end ListView

namespace Service

def subscribed (modules : Modules) : ListName → Option (EventNames × Subscriptions)
  | .bundles => some (.queue, modules.queueEvents)
  | .roots => some (.share, modules.shareEvents)
  | .hubs | .results _ => none

def forward (list : ListName) (event : ItemEvent) (session : Nat) (service : Service) : Service :=
  match (service.modules? session).bind fun modules => subscribed modules list with
  | some (names, subscriptions) =>
      if subscriptions.isActive (names.of event) then
        service.push session (names.of event) (event.data (service.handler list))
      else service
  | none => service

def deliver (list : ListName) (event : ItemEvent) (listener : Listener) (service : Service) :
    Service :=
  match listener with
  | .forwarder session => service.forward list event session
  | .view id =>
      service.modifyView id fun bound =>
        { bound with
          attached := { bound.attached with
            view := bound.attached.view.hearEvent (service.handler list) event } }

def announce (list : ListName) (service : Service) (event : ItemEvent) : Service :=
  (service.signal list).emit (deliver list event)
    { service with reported := service.reported ++ [(list, event)] }

def announceAll (list : ListName) (events : List ItemEvent) (service : Service) : Service :=
  events.foldl (announce list) service

variable {Result : Type}

def publishQueue (service : Service) (published : Published Queue Result) : Service :=
  announceAll .bundles published.events
    { service with queue := { service.queue with owner := published.owner } }

def publishShare (service : Service) (published : Published Share Result) : Service :=
  announceAll .roots published.events
    { service with share := { service.share with owner := published.owner } }

def publishHubs (service : Service) (published : Published HubList Result) : Service :=
  announceAll .hubs published.events
    { service with hubs := { service.hubs with owner := published.owner } }

def publishSearch (service : Service) (session : Nat) (published : Published Search Result) :
    Service :=
  announceAll (.results session) published.events
    (service.modifySession session fun session =>
      { session with search := { session.search with owner := published.owner } })

end Service

end LiveList
