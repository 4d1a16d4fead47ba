import LiveList.Decimal.Layout
import LiveList.Handler

/-!
Entries: a small kind of item with a property of every sort, for trying views out.
-/

namespace LiveList

structure Entry where
  id : Nat
  name : String := ""
  size : Float := 0
  /-- Below 256. -/
  tag : Nat := 0

namespace Entry

def properties : PropertyTable := [
  .text 0 "name",
  .numeric 1 "size" .size,
  .custom 2 "tag" .custom,
  ⟨3, "note", .text, .none, .text⟩,
  .boolean 4 "odd",
  .custom 5 "rank" .numeric]

def number (entry : Entry) : PropertyId → Float
  | 1 => entry.size
  | 4 => Float.ofNat (entry.tag % 2)
  | 5 => -(Float.ofNat entry.tag)
  | _ => 0

def text (entry : Entry) : PropertyId → String
  | 0 => entry.name
  | 1 => Decimal.plain entry.size
  | 2 => "tag" ++ toString entry.tag
  | 3 => "note " ++ entry.name
  | 4 => toString (entry.tag % 2)
  | _ => "rank" ++ toString entry.tag

def custom (entry : Entry) : PropertyId → Json
  | 2 => .object [("id", .ofNat entry.tag), ("str", .string ("tag" ++ toString entry.tag))]
  | _ => .null

def handler : Handler Entry where
  table := properties
  key := id
  number := number
  text := text
  order a b _ := Ord.compare a.tag b.tag
  custom := custom

end Entry

end LiveList
