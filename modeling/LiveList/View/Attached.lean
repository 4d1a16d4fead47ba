import LiveList.Signal
import LiveList.View.Lifecycle

/-!
A view together with its connection to the signal of its source. The effects of an operation on
the view are carried out on the signal in order.
-/

namespace LiveList

structure AttachedView (Ref : Type) where
  view : ListView Ref := {}
  connection : Option ConnectionId := none

namespace AttachedView

variable {Ref Listener : Type}

/-- Carries out one effect: joining connects the view unless it is connected, leaving removes the
connection. -/
def carryOut (listener : Listener) (state : Option ConnectionId × Signal Listener)
    (effect : ViewEffect) : Option ConnectionId × Signal Listener :=
  match effect, state.1 with
  | .join, none =>
      let (id, signal) := state.2.connect listener
      (some id, signal)
  | .leave, some id => (none, (state.2.disconnect id).2)
  | _, _ => state

def settle (listener : Listener) (signal : Signal Listener) (attached : AttachedView Ref)
    (step : ViewStep Ref) : AttachedView Ref × Signal Listener :=
  let (connection, signal) :=
    step.effects.foldl (carryOut listener) (attached.connection, signal)
  ({ view := step.view, connection }, signal)

end AttachedView

end LiveList
