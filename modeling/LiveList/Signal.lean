/-!
Signals: an event with any number of connected listeners. A listener sits in a numbered place; a
place that was left is used again, the one left last first, and listeners are called in the order
of their places. Every connection has an id that no other connection ever gets.
-/

namespace LiveList

/-- The id of a connection: its place, and how often the place was left before. -/
structure ConnectionId where
  place : Nat
  round : Nat
  deriving DecidableEq, Repr

structure Place (Listener : Type) where
  round : Nat
  listener : Option Listener

/-- The places of a signal, and those of them that were left, last one first. -/
structure Signal (Listener : Type) where
  places : List (Place Listener) := []
  free : List Nat := []

namespace Signal

variable {Listener State : Type}

def connect (signal : Signal Listener) (listener : Listener) : ConnectionId × Signal Listener :=
  match signal.free with
  | place :: free =>
      (⟨place, ((signal.places[place]?).map (·.round)).getD 0⟩,
        { places := signal.places.modify place fun old => { old with listener := some listener }
          free })
  | [] =>
      (⟨signal.places.length, 0⟩, { signal with places := signal.places ++ [⟨0, some listener⟩] })

def listener? (signal : Signal Listener) (id : ConnectionId) : Option Listener :=
  match signal.places[id.place]? with
  | some place => if place.round = id.round then place.listener else none
  | none => none

def vacate (signal : Signal Listener) (place : Nat) : Signal Listener :=
  { places := signal.places.modify place fun old => { round := old.round + 1, listener := none }
    free := place :: signal.free }

def disconnect (signal : Signal Listener) (id : ConnectionId) : Bool × Signal Listener :=
  if (signal.listener? id).isSome then (true, signal.vacate id.place) else (false, signal)

def occupied (signal : Signal Listener) : List Nat :=
  (List.range signal.places.length).filter fun place =>
    ((signal.places[place]?).bind (·.listener)).isSome

def disconnectAll (signal : Signal Listener) : Signal Listener :=
  signal.occupied.foldl vacate signal

def listeners (signal : Signal Listener) : List Listener :=
  signal.places.filterMap (·.listener)

def count (signal : Signal Listener) : Nat := signal.listeners.length

/-- Calls the listeners connected at this moment, one after the other. What a call does to the
signal is part of the state and has no effect on which listeners are called. -/
def emit (signal : Signal Listener) (call : Listener → State → State) (state : State) : State :=
  signal.listeners.foldl (fun state listener => call listener state) state

end Signal

end LiveList
