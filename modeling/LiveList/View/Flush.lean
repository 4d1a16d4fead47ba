import LiveList.View.Basic

/-!
Flushing a view: the waiting changes are applied to its picture, the window is moved along with the
rows it starts at, and what is new about it is told.
-/

namespace LiveList

/-- What the changes of one flush act on: the rows, the start of the window, and for each row that
stayed in the view the properties that changed. -/
structure FlushState (Ref : Type) where
  rows : Rows Ref
  start : Nat
  updated : List (Nat × PropertySet) := []

structure FlushContext (Ref : Type) where
  handler : Handler Ref
  filters : List Filter
  order : Ref → Ref → Ordering

namespace FlushState

variable {Ref : Type}

/-- Puts an item into the view at its place. A row that comes to stand at the start of the window
or before it moves the window along. -/
def insertMatching (context : FlushContext Ref) (item : Ref) (state : FlushState Ref) :
    FlushState Ref :=
  let place := View.insertionPoint context.order item state.rows.matching
  { state with
    rows := { state.rows with
      matching := state.rows.matching.insertIdx place item
      matchingKeys := context.handler.key item :: state.rows.matchingKeys }
    start := if place ≤ state.start then state.start + 1 else state.start }

/-- Takes the item with a key out of the view. A row before the start of the window moves the
window along. -/
def removeMatching (context : FlushContext Ref) (key : Nat) (state : FlushState Ref) :
    FlushState Ref :=
  if state.rows.matchingKeys.contains key then
    let rows := { state.rows with matchingKeys := state.rows.matchingKeys.filter (· != key) }
    match rows.matching.findIdx? fun item => context.handler.key item == key with
    | some place =>
        { state with
          rows := { rows with matching := rows.matching.eraseIdx place }
          start := if place < state.start then state.start - 1 else state.start }
    | none => { state with rows }
  else state

def applyAdd (context : FlushContext Ref) (item : Ref) (state : FlushState Ref) : FlushState Ref :=
  let (added, rows) := state.rows.insert (context.handler.key item) item
  let state := { state with rows }
  if added && Filter.passAll context.filters context.handler item then
    state.insertMatching context item
  else state

def applyRemove (context : FlushContext Ref) (item : Ref) (state : FlushState Ref) :
    FlushState Ref :=
  let key := context.handler.key item
  match Assoc.get? state.rows.index key with
  | none => state
  | some arrival =>
      let rows := { state.rows with
        index := Assoc.erase key state.rows.index
        items := Assoc.erase arrival state.rows.items }
      removeMatching context key { state with rows }

/-- A changed item; an item that is not known is ignored. It may enter the view or leave it. -/
def applyUpdate (context : FlushContext Ref) (item : Ref) (changed : PropertySet)
    (state : FlushState Ref) : FlushState Ref :=
  let key := context.handler.key item
  match Assoc.get? state.rows.index key with
  | none => state
  | some arrival =>
      let state := { state with
        rows := { state.rows with items := Assoc.set arrival item state.rows.items } }
      let inside := state.rows.matchingKeys.contains key
      let passes := Filter.passAll context.filters context.handler item
      if inside then
        if passes then
          -- The row keeps its place; a change of the sorted property has all rows sorted anyway.
          let before := (Assoc.get? state.updated key).getD []
          { state with
            updated := Assoc.set key (PropertySet.union before changed) state.updated }
        else state.removeMatching context key
      else if passes then state.insertMatching context item
      else state

def apply (context : FlushContext Ref) (state : FlushState Ref) (change : Change Ref) :
    FlushState Ref :=
  match change.kind with
  | .add =>
      -- The item known by the key goes first, so the new one takes a place of its own.
      let state := if change.replaces then state.applyRemove context change.item else state
      state.applyAdd context change.item
  | .remove => state.applyRemove context change.item
  | .update => state.applyUpdate context change.item change.changed

end FlushState

namespace ListView

variable {Ref : Type}

def hasNews (view : ListView Ref) : Bool :=
  !view.changes.isEmpty || view.settings.changed || view.rows.unsorted

/-- The rows sorted, if they have to be: by a new order, after filtering anew, or because the
property they are sorted by changed. -/
def sortedRows (context : FlushContext Ref) (sort : PropertyId × Bool) (updated : PropertySet)
    (rows : Rows Ref) : Rows Ref :=
  if updated.contains sort.1 || rows.sortedBy != some sort || rows.unsorted then
    { rows with
      matching := View.stableSort context.order rows.matching
      unsorted := false
      sortedBy := some sort }
  else rows

/-- The rows of a window as they are told: new rows with all properties, known ones with those that
changed, the others by position only. -/
def deltaRows (handler : Handler Ref) (known : List Nat) (updated : List (Nat × PropertySet))
    (window : List Ref) : List (DeltaRow Nat) :=
  window.mapIdx fun position item =>
    let key := handler.key item
    { id := key
      position
      properties :=
        if known.contains key then
          (Assoc.get? updated key).map fun changed => handler.fields changed item
        else some (handler.fields handler.table.ids item) }

def ifNews (told : Option Nat) (value : Nat) : Option Nat :=
  if told = some value then none else some value

/-- Brings the rows up to date and tells the difference. Without a property to sort by the view is
not ready, and changes go on waiting. -/
def flushed (handler : Handler Ref) (view : ListView Ref) : ListView Ref × Option (Delta Nat) :=
  match view.phase, view.settings.sortProperty with
  | .active, some property =>
      if view.hasNews then
        let (settingsChanged, settings) := view.settings.takeChanged
        let sort := (property, settings.sortAscending)
        let (batch, changes) := view.changes.take
        let context : FlushContext Ref :=
          { handler
            filters := view.filters.compiled
            order := handler.compare sort.1 sort.2 }
        let begun := settings.rangeStart
        let state := batch.changes.foldl (FlushState.apply context)
          { rows := sortedRows context sort batch.updatedProperties view.rows, start := begun }
        let rows := state.rows
        let count := rows.matching.length
        -- Only now is the window kept inside the list: it moved along with each change before.
        let start := if state.start < count then state.start else 0
        let settings := settings.adjustRangeStart start
        let window := (rows.matching.drop start).take settings.maxCount
        let keys := window.map handler.key
        -- New settings have all rows told, even if the same rows are in the window.
        let newRows := keys != rows.window || keys.any (Assoc.contains state.updated) ||
          settingsChanged
        let total := rows.items.length
        let delta : Delta Nat :=
          { rows :=
              if newRows then some (deltaRows handler rows.window state.updated window) else none
            rangeStart := if settingsChanged then some start else ifNews rows.toldStart start
            rangeOffset := if start = begun then none else some ((start : Int) - (begun : Int))
            matchingItems := ifNews rows.toldMatching count
            totalItems := ifNews rows.toldTotal total }
        let rows := { rows with
          window := keys
          toldStart := some start
          toldMatching := some count
          toldTotal := some total }
        ({ view with settings, changes, rows }, if delta.isEmpty then none else some delta)
      else (view, none)
  | _, _ => (view, none)

def flush (handler : Handler Ref) (view : ListView Ref) : ViewStep Ref :=
  let (view, delta) := view.flushed handler
  { view, effects := delta.toList.map .told }

end ListView

end LiveList
