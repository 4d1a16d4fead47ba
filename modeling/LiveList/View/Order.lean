/-!
Keeping a list in order: a stable sort, and the place of a new element in a sorted list. Both ask
only for the order of two elements.
-/

namespace LiveList.View

variable {Item : Type}

/-- Puts an element before the first one that does not come strictly before it. -/
def insertBefore (order : Item → Item → Ordering) (item : Item) : List Item → List Item
  | [] => [item]
  | first :: rest =>
      if order first item = .lt then first :: insertBefore order item rest
      else item :: first :: rest

def stableSort (order : Item → Item → Ordering) (items : List Item) : List Item :=
  items.foldr (insertBefore order) []

/-- Narrows the search for the last element that passes down to one candidate, by halving. The
candidate lies in the `size` elements from `base` on. -/
def narrow (passes : Nat → Bool) : Nat → Nat → Nat → Nat
  | 0, base, _ => base
  | fuel + 1, base, size =>
      if size ≤ 1 then base
      else
        let half := size / 2
        narrow passes fuel (if passes (base + half) then base + half else base) (size - half)

/-- The number of elements at the front that pass, if those that pass all stand at the front. -/
def frontLength (passes : Item → Bool) (items : List Item) : Nat :=
  if items.isEmpty then 0
  else
    let passesAt (index : Nat) : Bool := (items[index]?).any passes
    -- Halving never looks at the first element, so the candidate is looked at once more.
    let candidate := narrow passesAt items.length 0 items.length
    if passesAt candidate then candidate + 1 else candidate

/-- The place after all elements that do not come strictly after a new one. -/
def insertionPoint (order : Item → Item → Ordering) (item : Item) (items : List Item) : Nat :=
  frontLength (fun other => order other item != .gt) items

end LiveList.View
