import LiveList.Json.Basic

/-!
Deltas: what a view tells its reader about the difference from what the reader knows. What a delta
leaves out is unchanged.
-/

namespace LiveList

/-- One row of a window. Without properties only its position is told. -/
structure DeltaRow (Id : Type) where
  id : Id
  position : Nat
  properties : Option (List (String × Json))

structure Delta (Id : Type) where
  /-- All rows of the window, in order. -/
  rows : Option (List (DeltaRow Id)) := none
  rangeStart : Option Nat := none
  /-- How far the window was moved by the view itself. -/
  rangeOffset : Option Int := none
  matchingItems : Option Nat := none
  totalItems : Option Nat := none

namespace Delta

variable {Id : Type}

def isEmpty (delta : Delta Id) : Bool :=
  delta.rows.isNone && delta.rangeStart.isNone && delta.rangeOffset.isNone &&
    delta.matchingItems.isNone && delta.totalItems.isNone

def ids (delta : Delta Id) : List Id := (delta.rows.getD []).map (·.id)

def part {Value : Type} (name : String) (json : Value → Json) : Option Value → List (String × Json)
  | some value => [(name, json value)]
  | none => []

def rowJson (idJson : Id → Json) (row : DeltaRow Id) : Json :=
  Json.ofFields ([("id", idJson row.id), ("position", .ofNat row.position)] ++
    part "properties" Json.ofFields row.properties)

def toJson (idJson : Id → Json) (delta : Delta Id) : Json :=
  Json.ofFields (part "items" (fun rows => .list (rows.map (rowJson idJson))) delta.rows ++
    part "range_start" .ofNat delta.rangeStart ++
    part "range_offset" .integer delta.rangeOffset ++
    part "matching_items" .ofNat delta.matchingItems ++
    part "total_items" .ofNat delta.totalItems)

end Delta

end LiveList
