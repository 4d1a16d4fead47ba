import LiveList.Filter.Slots
import LiveList.View.Changes
import LiveList.View.Delta
import LiveList.View.Order
import LiveList.View.Settings

/-!
Live views: a filtered, sorted and windowed picture of the items of a source. A view hears of every
change at its source, collects the changes, and brings its picture up to date when it is flushed.

Items are held by reference. All functions that look at items take a handler that reads them as
they are at that moment, so a change of an item is seen even before the view hears of it.
-/

namespace LiveList

/-- A periodic timer, seen from outside: whether it is running, and how often it has ticked. Further
ticks are events of their own. -/
structure Timer where
  running : Bool := false
  ticks : Nat := 0
  deriving DecidableEq, Repr

namespace Timer

def start (timer : Timer) (atOnce : Bool) : Bool × Timer :=
  if timer.running then (false, timer)
  else (true, { running := true, ticks := if atOnce then timer.ticks + 1 else timer.ticks })

def stop (timer : Timer) : Bool × Timer :=
  (timer.running, { timer with running := false })

end Timer

inductive Phase where
  | inactive
  | active
  | paused
  deriving DecidableEq, Repr

def Phase.name : Phase → String
  | .inactive => "inactive"
  | .active => "active"
  | .paused => "paused"

structure Rows (Ref : Type) where
  /-- All known items by the number of their arrival, in ascending order. -/
  items : List (Nat × Ref) := []
  /-- The arrival number of each known key. -/
  index : List (Nat × Nat) := []
  nextArrival : Nat := 0
  /-- The items that pass the filters, in the order of the view. -/
  matching : List Ref := []
  matchingKeys : List Nat := []
  /-- Set when `matching` was filtered anew and is not sorted yet. -/
  unsorted : Bool := false
  /-- The property and direction by which `matching` was sorted last. -/
  sortedBy : Option (PropertyId × Bool) := none
  /-- The keys of the window that was told last. -/
  window : List Nat := []
  toldMatching : Option Nat := none
  toldTotal : Option Nat := none
  toldStart : Option Nat := none

structure ListView (Ref : Type) where
  phase : Phase := .inactive
  settings : ViewSettings := {}
  filters : FilterSlots := {}
  changes : Changes Ref := {}
  rows : Rows Ref := {}
  timer : Timer := {}

inductive ViewEffect where
  /-- The view starts to listen at its source. -/
  | join
  /-- The view stops listening at its source. -/
  | leave
  /-- The view was activated, or torn down. -/
  | activated (on : Bool)
  /-- The view has something to tell. -/
  | told (delta : Delta Nat)

structure ViewStep (Ref : Type) where
  view : ListView Ref
  effects : List ViewEffect := []

namespace Rows

variable {Ref : Type}

def insert (rows : Rows Ref) (key : Nat) (item : Ref) : Bool × Rows Ref :=
  if Assoc.contains rows.index key then (false, rows)
  else
    (true, { rows with
      items := rows.items ++ [(rows.nextArrival, item)]
      index := Assoc.set key rows.nextArrival rows.index
      nextArrival := rows.nextArrival + 1 })

def insertAll (handler : Handler Ref) (rows : Rows Ref) (items : List Ref) : Rows Ref :=
  items.foldl (fun rows item => (rows.insert (handler.key item) item).2) rows

/-- Forgets all items, but not how many have arrived nor what was told. -/
def clearItems (rows : Rows Ref) : Rows Ref :=
  { rows with items := [], index := [], matching := [], matchingKeys := [] }

def refilter (handler : Handler Ref) (filters : List Filter) (rows : Rows Ref) : Rows Ref :=
  let matching := (rows.items.map (·.2)).filter (Filter.passAll filters handler)
  { rows with matching, matchingKeys := matching.map handler.key, unsorted := true }

end Rows

namespace ListView

variable {Ref : Type}

def isActive (view : ListView Ref) : Bool := view.phase != .inactive

def hear (handler : Handler Ref) (kind : ChangeKind) (item : Ref) (changed : PropertySet)
    (view : ListView Ref) : ListView Ref :=
  if view.phase = .inactive then view
  else { view with changes := view.changes.report (handler.key item) item kind changed }

def hearAdded (handler : Handler Ref) (item : Ref) (view : ListView Ref) : ListView Ref :=
  view.hear handler .add item []

def hearRemoved (handler : Handler Ref) (item : Ref) (view : ListView Ref) : ListView Ref :=
  view.hear handler .remove item []

def hearUpdated (handler : Handler Ref) (item : Ref) (changed : PropertySet)
    (view : ListView Ref) : ListView Ref :=
  view.hear handler .update item changed

def hearAllUpdated (handler : Handler Ref) (items : List Ref) (changed : PropertySet)
    (view : ListView Ref) : ListView Ref :=
  items.foldl (fun view item => view.hearUpdated handler item changed) view

def refilter (handler : Handler Ref) (view : ListView Ref) : ListView Ref :=
  { view with rows := view.rows.refilter handler view.filters.compiled }

def afterFilterChange (handler : Handler Ref) (view : ListView Ref) : ListView Ref :=
  let view := view.refilter handler
  { view with settings := view.settings.setRangeStart 0 }

def addEmptyFilter (view : ListView Ref) : Nat × ListView Ref :=
  let (id, filters) := view.filters.add
  (id, { view with filters })

def setFilter (handler : Handler Ref) (id : Nat) (filter : Option Filter) (view : ListView Ref) :
    Except ViewError (ListView Ref) := do
  let filters ← view.filters.set id filter
  pure (ListView.afterFilterChange handler { view with filters })

/-- What a request for a new filter asks for. Anything but an object with fields asks for an empty
one. -/
def requestedFilter (handler : Handler Ref) (body : Json) : Except ViewError (Option Filter) :=
  match body with
  | .object (_ :: _) => Filter.ofJson handler.table body
  | _ => .ok none

/-- Adds a filter by request. The filter has its number before its pattern is set. -/
def addFilter (handler : Handler Ref) (body : Json) (view : ListView Ref) :
    ListView Ref × Except ViewError Nat :=
  match requestedFilter handler body with
  | .error error => (view, .error error)
  | .ok none =>
      let (id, added) := view.addEmptyFilter
      (added, .ok id)
  | .ok (some filter) =>
      let (id, added) := view.addEmptyFilter
      match added.setFilter handler id (some filter) with
      | .ok view => (view, .ok id)
      | .error error => (added, .error error)

/-- Sets a filter by request. That it exists is checked before the request is looked at. -/
def changeFilter (handler : Handler Ref) (id : Nat) (body : Json) (view : ListView Ref) :
    Except ViewError (ListView Ref) := do
  if view.filters.contains id then
    let filter ← Filter.ofJson handler.table body
    view.setFilter handler id filter
  else throw (.filterNotFound id)

def removeFilter (handler : Handler Ref) (id : Nat) (view : ListView Ref) :
    Except ViewError (ListView Ref) := do
  let filters ← view.filters.remove id
  pure (ListView.afterFilterChange handler { view with filters })

def clearFilters (handler : Handler Ref) (view : ListView Ref) : ListView Ref :=
  ListView.afterFilterChange handler { view with filters := view.filters.clear }

def page (view : ListView Ref) (start stop : Nat) : List Ref :=
  (view.rows.matching.take stop).drop start

def pageJson (handler : Handler Ref) (view : ListView Ref) (start stop : Nat) : List Json :=
  (view.page start stop).map handler.itemJson

end ListView

end LiveList
