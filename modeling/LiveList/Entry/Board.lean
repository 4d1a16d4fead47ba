import LiveList.Entry.Basic
import LiveList.View.Attached
import LiveList.View.Command

/-!
A board: one view over a source of entries that its owner controls step by step. Entries are kept
for good and referred to by number, so that one can be changed without a word, reported though it
is not in the source, or stand beside another of the same id.
-/

namespace LiveList.Entry

structure Board where
  /-- All entries ever made; their positions are the references. -/
  made : List Entry := []
  /-- The references in the source. -/
  listed : List Nat := []
  signal : Signal Unit := {}
  attached : AttachedView Nat := {}

inductive Report where
  | added
  | removed
  | updated (changed : PropertySet)

namespace Board

def read (board : Board) (ref : Nat) : Entry := (board.made[ref]?).getD { id := 0 }

def access (board : Board) : Handler Nat := Entry.handler.comap board.read

def newest? (board : Board) (id : Nat) : Option Nat :=
  (List.range board.made.length).reverse.find? fun ref => (board.read ref).id == id

def view (board : Board) : ListView Nat := board.attached.view

def tell (board : Board) (report : Report) (ref : Nat) : Board :=
  let view :=
    match report with
    | .added => board.view.hearAdded board.access ref
    | .removed => board.view.hearRemoved board.access ref
    | .updated changed => board.view.hearUpdated board.access ref changed
  { board with attached := { board.attached with view } }

def emit (board : Board) (report : Report) (ref : Nat) : Board :=
  board.signal.emit (fun _ board => board.tell report ref) board

def make (board : Board) (entry : Entry) : Nat × Board :=
  (board.made.length, { board with made := board.made ++ [entry] })

def add (board : Board) (entry : Entry) (silent : Bool) : Board :=
  let (ref, board) := board.make entry
  let board := { board with listed := board.listed ++ [ref] }
  if silent then board else board.emit .added ref

def remove (board : Board) (id : Nat) (silent : Bool) : Board :=
  let board := { board with listed := board.listed.filter fun ref => (board.read ref).id != id }
  match board.newest? id with
  | some ref => if silent then board else board.emit .removed ref
  | none => board

/-- Changes the newest entry of an id in place, and reports the properties named, if any are. -/
def change (board : Board) (id : Nat) (update : Entry → Entry) (changed : Option PropertySet) :
    Board :=
  match board.newest? id with
  | none => board
  | some ref =>
      let board := { board with made := board.made.modify ref update }
      match changed with
      | some changed => board.emit (.updated changed) ref
      | none => board

/-- Tells the view about the newest entries of some ids, past the source. -/
def notify (board : Board) (report : Report) (ids : List Nat) : Board :=
  (ids.filterMap board.newest?).foldl (fun board ref => board.tell report ref) board

def notifyAll (board : Board) (ids : List Nat) (changed : PropertySet) : Board :=
  let view := board.view.hearAllUpdated board.access (ids.filterMap board.newest?) changed
  { board with attached := { board.attached with view } }

def perform (board : Board) (command : ViewCommand) : Board × List ViewEffect × ViewAnswer :=
  let (step, answer) := board.view.perform board.access board.listed command
  let (attached, signal) := board.attached.settle () board.signal step
  ({ board with attached, signal }, step.effects, answer)

end Board

end LiveList.Entry
