import LiveList.Assoc
import LiveList.Property

/-!
Changes that wait for the next flush, at most one for each item. Later reports about an item are
merged into the change that waits, and the changes are taken in the order in which their items were
first reported.
-/

namespace LiveList

inductive ChangeKind where
  | add
  | remove
  | update
  deriving DecidableEq, Repr

structure Change (Ref : Type) where
  kind : ChangeKind
  /-- The item as it was last reported. -/
  item : Ref
  /-- The properties that changed. -/
  changed : PropertySet
  /-- An addition after a removal: what was known by this key has to go first. -/
  replaces : Bool

/-- The waiting changes by key, and the keys in the order of their first report. -/
structure Changes (Ref : Type) where
  order : List Nat := []
  tasks : List (Nat × Change Ref) := []

/-- All waiting changes in order, and the properties that the updates among them name. -/
structure ChangeBatch (Ref : Type) where
  changes : List (Change Ref)
  updatedProperties : PropertySet

namespace Change

variable {Ref : Type}

/-- Merges a report into the change that waits. A removal forgets what was there, an addition
after a removal replaces, and an update or a repeated addition adds its properties. -/
def merge (waiting : Change Ref) (item : Ref) (kind : ChangeKind) (changed : PropertySet) :
    Change Ref :=
  match waiting.kind, kind with
  | _, .remove => { kind := .remove, item, changed := [], replaces := false }
  | .remove, .update => { waiting with item }
  | .remove, .add => { kind := .add, item, changed := [], replaces := true }
  | _, _ => { waiting with item, changed := PropertySet.union waiting.changed changed }

end Change

namespace Changes

variable {Ref : Type}

def report (changes : Changes Ref) (key : Nat) (item : Ref) (kind : ChangeKind)
    (changed : PropertySet) : Changes Ref :=
  match Assoc.get? changes.tasks key with
  | none =>
      { order := changes.order ++ [key]
        tasks := Assoc.set key ⟨kind, item, changed, false⟩ changes.tasks }
  | some waiting =>
      { changes with tasks := Assoc.set key (waiting.merge item kind changed) changes.tasks }

def isEmpty (changes : Changes Ref) : Bool := changes.order.isEmpty

def count (changes : Changes Ref) : Nat := changes.order.length

def batch (changes : Changes Ref) : ChangeBatch Ref :=
  let found := changes.order.filterMap (Assoc.get? changes.tasks)
  { changes := found
    updatedProperties := found.foldl
      (fun set change =>
        if change.kind = .update then PropertySet.union set change.changed else set) [] }

def take (changes : Changes Ref) : ChangeBatch Ref × Changes Ref := (changes.batch, {})

end Changes

end LiveList
