import LiveList.Request.Error

/-!
Subscriptions of a client to events. Only events with known names can be subscribed to.
-/

namespace LiveList

structure Subscriptions where
  known : List String
  active : List String := []

namespace Subscriptions

def check (subscriptions : Subscriptions) (name : String) : Except RequestError Unit :=
  if subscriptions.known.contains name then .ok ()
  else .error (.notFound ("No such subscription: " ++ name))

def subscribe (subscriptions : Subscriptions) (name : String) :
    Except RequestError Subscriptions := do
  subscriptions.check name
  pure { subscriptions with active := name :: subscriptions.active.filter (· != name) }

def unsubscribe (subscriptions : Subscriptions) (name : String) :
    Except RequestError Subscriptions := do
  subscriptions.check name
  pure { subscriptions with active := subscriptions.active.filter (· != name) }

def isActive (subscriptions : Subscriptions) (name : String) : Bool :=
  subscriptions.active.contains name

def clear (subscriptions : Subscriptions) : Subscriptions := { subscriptions with active := [] }

end Subscriptions

end LiveList
