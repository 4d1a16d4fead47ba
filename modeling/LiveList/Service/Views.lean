import LiveList.Service.Events
import LiveList.View.Routes

/-!
Views of the service: they are opened for a session, act on their list, send what they tell, and
are closed again.
-/

namespace LiveList.Service

def tellEvent (view : String) : String := view ++ "_updated"

def send (bound : BoundView) (service : Service) : ViewEffect → Service
  | .told delta => service.push bound.session (tellEvent bound.name) (delta.toJson .ofNat)
  | .join | .leave | .activated _ => service

/-- Takes over a view after an operation and carries out its effects. -/
def settle (service : Service) (id : Nat) (bound : BoundView) (step : ViewStep Nat) : Service :=
  let (attached, signal) := bound.attached.settle (.view id) (service.signal bound.list) step
  let service := service.setSignal bound.list signal
  let service := { service with views := Assoc.set id { bound with attached } service.views }
  step.effects.foldl (send bound) service

/-- Gives a command to a view. A view that is not there is as good as not active. -/
def perform (service : Service) (id : Nat) (command : ViewCommand) : Service × ViewAnswer :=
  match service.view? id with
  | some bound =>
      let (step, answer) :=
        bound.attached.view.perform (service.handler bound.list) (service.listed bound.list) command
      (service.settle id bound step, answer)
  | none => (service, .failed .notActive)

def openView (service : Service) (session : Nat) (name : String) (list : ListName) :
    Nat × Service :=
  let id := service.nextView
  let closing := ((service.sessions[session]?).map (·.closing)).getD {}
  let (connection, closing) := closing.connect id
  let service := service.modifySession session fun session => { session with closing }
  (id, { service with
    views := Assoc.set id { name, session, list, closing := connection } service.views
    nextView := id + 1 })

def stopView (id : Nat) (service : Service) : Service := (service.perform id .stop).1

def closeView (id : Nat) (service : Service) : Service :=
  let service := service.stopView id
  match service.view? id with
  | some bound =>
      let service := service.modifySession bound.session fun session =>
        { session with closing := (session.closing.disconnect bound.closing).2 }
      { service with views := Assoc.erase id service.views }
  | none => service

end LiveList.Service
