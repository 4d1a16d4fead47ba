import LiveList.Service.Views

/-!
Sessions. A session begins with its modules: forwarders of events and a view on every list. It ends
when the client goes away, which tears its views down, and its modules can be dropped as well.
-/

namespace LiveList.Service

def connectForwarder (service : Service) (list : ListName) (session : Nat) :
    ConnectionId × Service :=
  let (id, signal) := (service.signal list).connect (.forwarder session)
  (id, service.setSignal list signal)

def disconnectForwarder (service : Service) (list : ListName) (id : ConnectionId) : Service :=
  service.setSignal list ((service.signal list).disconnect id).2

def openModules (service : Service) (session : Nat) : Service :=
  let (resultView, service) := service.openView session "search_view" (.results session)
  let (queueForwarder, service) := service.connectForwarder .bundles session
  let (bundleView, service) := service.openView session "bundle_view" .bundles
  let (shareForwarder, service) := service.connectForwarder .roots session
  let (rootView, service) := service.openView session "root_view" .roots
  let (hubView, service) := service.openView session "favorite_hub_view" .hubs
  let modules : Modules :=
    { queueForwarder
      queueEvents := { known := EventNames.queue.all }
      shareForwarder
      shareEvents := { known := EventNames.share.all }
      bundleView
      rootView
      hubView
      resultView }
  service.modifySession session fun session => { session with modules := some modules }

def openSession (service : Service) : Nat × Service :=
  let session := service.sessions.length
  (session, { service with sessions := service.sessions ++ [({} : Session)] }.openModules session)

/-- The client of a session goes away: its views are torn down, and nothing is sent to it from now
on. This happens only once. -/
def disconnect (service : Service) (session : Nat) : Service :=
  match service.sessions[session]? with
  | some state =>
      if state.connected then
        -- The client counts as gone before its views are torn down.
        let service := service.modifySession session fun state => { state with connected := false }
        state.closing.emit stopView service
      else service
  | none => service

def dropModules (service : Service) (session : Nat) : Service :=
  match service.modules? session with
  | some modules =>
      let service := service.modifySession session fun state => { state with modules := none }
      let service := service.disconnectForwarder .bundles modules.queueForwarder
      let service := service.closeView modules.bundleView
      let service := service.disconnectForwarder .roots modules.shareForwarder
      let service := service.closeView modules.rootView
      let service := service.closeView modules.hubView
      service.closeView modules.resultView
  | none => service

end LiveList.Service
