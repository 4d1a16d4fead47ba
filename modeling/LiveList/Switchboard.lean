import LiveList.Signal

/-!
Switchboards: a signal whose listeners have labels and note every call. A listener can change the
connections of the signal while it is being called, its own included.
-/

namespace LiveList

/-- A listener: what it removes and what it connects, in this order, after it noted a call. -/
structure Script (Label : Type) where
  label : Label
  disconnects : Option Label := none
  connects : Option Label := none

structure Switchboard (Label Value : Type) where
  signal : Signal (Script Label) := {}
  /-- The connections made under each label, newest first, whether they still exist or not. -/
  made : List (Label × ConnectionId) := []
  /-- The connections that end with a guard, oldest first. -/
  guards : List (Label × ConnectionId) := []
  /-- The calls that were noted, in order. -/
  calls : List (Label × Value) := []

namespace Switchboard

variable {Label Value : Type}

def connect (board : Switchboard Label Value) (script : Script Label) : Switchboard Label Value :=
  let (id, signal) := board.signal.connect script
  { board with signal, made := (script.label, id) :: board.made }

/-- Connects a listener under a guard. It cannot be removed by its label. -/
def connectGuarded (board : Switchboard Label Value) (script : Script Label) :
    Switchboard Label Value :=
  let (id, signal) := board.signal.connect script
  { board with signal, guards := board.guards ++ [(script.label, id)] }

variable [BEq Label]

/-- Removes the newest connection made under a label, and says whether it was still there. A label
that no connection was ever made under has no answer. -/
def disconnect (board : Switchboard Label Value) (label : Label) :
    Option Bool × Switchboard Label Value :=
  match board.made.lookup label with
  | some id =>
      let (present, signal) := board.signal.disconnect id
      (some present, { board with signal })
  | none => (none, board)

def dropGuards (board : Switchboard Label Value) (label : Label) : Switchboard Label Value :=
  let dropped := board.guards.filter fun guarded => guarded.1 == label
  { board with
    signal := dropped.foldl (fun signal guarded => (signal.disconnect guarded.2).2) board.signal
    guards := board.guards.filter fun guarded => !(guarded.1 == label) }

def disconnectAll (board : Switchboard Label Value) : Switchboard Label Value :=
  { board with signal := board.signal.disconnectAll }

def call (value : Value) (script : Script Label) (board : Switchboard Label Value) :
    Switchboard Label Value :=
  let board := { board with calls := board.calls ++ [(script.label, value)] }
  let board :=
    match script.disconnects with
    | some label => (board.disconnect label).2
    | none => board
  match script.connects with
  | some label => board.connect { label }
  | none => board

def emit (board : Switchboard Label Value) (value : Value) : Switchboard Label Value :=
  board.signal.emit (call value) board

end Switchboard

end LiveList
