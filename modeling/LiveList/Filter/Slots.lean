import LiveList.Filter.Basic

/-!
The filters of one view. Each has a number of its own, given out in ascending order and never
again; a filter may be empty until its pattern is set.
-/

namespace LiveList

structure FilterSlot where
  id : Nat
  filter : Option Filter

structure FilterSlots where
  nextId : Nat := 1
  slots : List FilterSlot := []

namespace FilterSlots

def add (filters : FilterSlots) : Nat × FilterSlots :=
  (filters.nextId,
    { nextId := filters.nextId + 1, slots := filters.slots ++ [⟨filters.nextId, none⟩] })

def contains (filters : FilterSlots) (id : Nat) : Bool :=
  filters.slots.any (·.id == id)

def set (filters : FilterSlots) (id : Nat) (filter : Option Filter) :
    Except ViewError FilterSlots :=
  if filters.contains id then
    .ok { filters with
      slots := filters.slots.map fun slot => if slot.id = id then { slot with filter } else slot }
  else .error (.filterNotFound id)

def remove (filters : FilterSlots) (id : Nat) : Except ViewError FilterSlots :=
  if filters.contains id then
    .ok { filters with slots := filters.slots.filter (·.id != id) }
  else .error (.filterNotFound id)

/-- Removes all filters; their numbers stay used. -/
def clear (filters : FilterSlots) : FilterSlots := { filters with slots := [] }

def compiled (filters : FilterSlots) : List Filter := filters.slots.filterMap (·.filter)

end FilterSlots

end LiveList
