import LiveList.Decimal.Binary
import LiveList.Property
import LiveList.Text.Lowercase

/-!
Handlers: how the properties of items of one kind are read, compared and sent.
-/

namespace LiveList

/-- Access to items. An item may be a record of values, or a reference that is read through
`comap`. -/
structure Handler (Item : Type) where
  table : PropertyTable
  /-- The identity of an item; it never changes. -/
  key : Item → Nat
  /-- The number of a property, for sorting, sending and comparing with numbers. -/
  number : Item → PropertyId → Float
  /-- The text of a property, for sorting, sending and text patterns. -/
  text : Item → PropertyId → String
  /-- The order by a property that is sorted in a way of its own. -/
  order : Item → Item → PropertyId → Ordering
  /-- The JSON form of a property that is sent in a form of its own. -/
  custom : Item → PropertyId → Json

/-- The order of two numbers; what cannot be compared counts as equal. -/
def compareNumbers (a b : Float) : Ordering :=
  if a < b then .lt else if b < a then .gt else .eq

/-- The JSON form of a number: whole values of at most 63 bits are whole numbers, other finite
values keep their fraction, and what is not finite is null. -/
def numberJson (value : Float) : Json :=
  if value.isFinite then
    if Decimal.isWhole value && (Decimal.truncate value).natAbs < signedLimit then
      .integer (Decimal.truncate value)
    else .float value
  else .null

namespace Handler

variable {Item Ref : Type}

def comap (handler : Handler Item) (read : Ref → Item) : Handler Ref where
  table := handler.table
  key ref := handler.key (read ref)
  number ref := handler.number (read ref)
  text ref := handler.text (read ref)
  order a b := handler.order (read a) (read b)
  custom ref := handler.custom (read ref)

/-- The order of two items by a property. A property that is not in the table, or that nothing is
sorted by, puts all items in one place. -/
def compare (handler : Handler Item) (id : PropertyId) (ascending : Bool) (a b : Item) : Ordering :=
  match handler.table[id]? with
  | none => .eq
  | some property =>
      let order := match property.sort with
        | .none => .eq
        | .numeric => compareNumbers (handler.number a id) (handler.number b id)
        | .text => Text.compareFolded (handler.text a id) (handler.text b id)
        | .custom => handler.order a b id
      if ascending then order else order.swap

def propertyJson (handler : Handler Item) (item : Item) (property : Property) : Json :=
  match property.wire with
  | .text => .string (handler.text item property.id)
  | .numeric => numberJson (handler.number item property.id)
  | .bool => .bool (handler.number item property.id != 0)
  | .custom => handler.custom item property.id

def fields (handler : Handler Item) (ids : PropertySet) (item : Item) : List (String × Json) :=
  ids.filterMap fun id =>
    handler.table[id]?.map fun property => (property.name, handler.propertyJson item property)

def propertiesJson (handler : Handler Item) (ids : PropertySet) (item : Item) : Json :=
  Json.ofFields (handler.fields ids item)

def itemJson (handler : Handler Item) (item : Item) : Json :=
  Json.ofFields (("id", .ofNat (handler.key item)) ::
    handler.table.map fun property => (property.name, handler.propertyJson item property))

def listJson (handler : Handler Item) (items : List Item) : Json :=
  .list (items.map handler.itemJson)

end Handler

end LiveList
