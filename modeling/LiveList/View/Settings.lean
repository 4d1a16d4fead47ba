import LiveList.Json.Writer
import LiveList.Property
import LiveList.Error

/-!
Settings of a view. A request may leave settings out; it is checked as a whole before any of it
takes effect. Whether a setting differs from what it was is remembered until a flush takes note.
-/

namespace LiveList

/-- A checked request for settings; what is absent stays as it is. -/
structure SettingsUpdate where
  rangeStart : Option Nat := none
  maxCount : Option Nat := none
  sortProperty : Option PropertyId := none
  sortAscending : Option Bool := none
  paused : Option Bool := none
  deriving DecidableEq, Repr

namespace SettingsUpdate

def check {Value : Type} (body : Json) (name : String) (read : Json → Except ViewError Value) :
    Except ViewError (Option Value) :=
  match body.given? name with
  | none => .ok none
  | some value => (read value).map some

def readRangeStart (value : Json) : Except ViewError Nat :=
  match value.signed? with
  | none => .error (.invalidValue "range_start" "expected an integer")
  | some start => if start < 0 then .error .negativeRangeStart else .ok start.toNat

def readMaxCount (value : Json) : Except ViewError Nat :=
  match value.natural? with
  | none => .error (.invalidValue "max_count" "expected a non-negative integer")
  | some count => .ok count

def readSortProperty (table : PropertyTable) (value : Json) : Except ViewError PropertyId :=
  match value with
  | .string name =>
      match table.named? name with
      | some property =>
          if property.isSortable then .ok property.id else .error (.invalidSortProperty name)
      | none => .error (.invalidSortProperty name)
  | _ => .error (.invalidSortProperty value.write)

def readFlag (name : String) (value : Json) : Except ViewError Bool :=
  match value.bool? with
  | none => .error (.invalidValue name "expected a boolean")
  | some flag => .ok flag

def ofJson (table : PropertyTable) (body : Json) : Except ViewError SettingsUpdate := do
  let rangeStart ← check body "range_start" readRangeStart
  let maxCount ← check body "max_count" readMaxCount
  let sortProperty ← check body "sort_property" (readSortProperty table)
  let sortAscending ← check body "sort_ascending" (readFlag "sort_ascending")
  let paused ← check body "paused" (readFlag "paused")
  pure { rangeStart, maxCount, sortProperty, sortAscending, paused }

end SettingsUpdate

structure ViewSettings where
  sortProperty : Option PropertyId := none
  sortAscending : Bool := true
  rangeStart : Nat := 0
  maxCount : Nat := 0
  paused : Bool := false
  /-- Whether a setting other than `paused` has changed since the last flush. -/
  changed : Bool := false
  deriving DecidableEq, Repr

namespace ViewSettings

def setRangeStart (settings : ViewSettings) (start : Nat) : ViewSettings :=
  { settings with rangeStart := start, changed := settings.changed || settings.rangeStart != start }

def adjustRangeStart (settings : ViewSettings) (start : Nat) : ViewSettings :=
  { settings with rangeStart := start }

def setMaxCount (settings : ViewSettings) (count : Nat) : ViewSettings :=
  { settings with maxCount := count, changed := settings.changed || settings.maxCount != count }

def setSortProperty (settings : ViewSettings) (property : PropertyId) : ViewSettings :=
  { settings with
    sortProperty := some property
    changed := settings.changed || settings.sortProperty != some property }

def setSortAscending (settings : ViewSettings) (ascending : Bool) : ViewSettings :=
  { settings with
    sortAscending := ascending
    changed := settings.changed || settings.sortAscending != ascending }

def applyGiven {Value : Type} (settings : ViewSettings) (given : Option Value)
    (set : ViewSettings → Value → ViewSettings) : ViewSettings :=
  match given with
  | some value => set settings value
  | none => settings

def apply (settings : ViewSettings) (update : SettingsUpdate) : ViewSettings :=
  let settings := settings.applyGiven update.rangeStart setRangeStart
  let settings := settings.applyGiven update.maxCount setMaxCount
  let settings := settings.applyGiven update.sortProperty setSortProperty
  let settings := settings.applyGiven update.sortAscending setSortAscending
  settings.applyGiven update.paused fun settings paused => { settings with paused }

def takeChanged (settings : ViewSettings) : Bool × ViewSettings :=
  (settings.changed, { settings with changed := false })

end ViewSettings

end LiveList
