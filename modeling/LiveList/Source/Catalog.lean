import LiveList.Assoc
import LiveList.Property

/-!
Catalogs: items under tokens that are given out in ascending order and never again. An item that
was dropped from a catalog can still be read as it was then, by those who have not heard of it yet.
-/

namespace LiveList

structure Catalog (Item : Type) where
  nextToken : Nat := 1
  /-- The items by token, in ascending order. -/
  listed : List (Nat × Item) := []
  /-- The items that were dropped, as they were. -/
  dropped : List (Nat × Item) := []

inductive ItemEvent where
  | added (token : Nat)
  | removed (token : Nat)
  | updated (token : Nat) (changed : PropertySet)
  deriving DecidableEq, Repr

/-- The owner of items after an operation, what it reports in order, and the result. -/
structure Published (Owner Result : Type) where
  owner : Owner
  events : List ItemEvent
  result : Result

namespace Published

variable {Owner Result Other Error Value : Type}

def unchanged (owner : Owner) (result : Result) : Published Owner Result := ⟨owner, [], result⟩

def respond (published : Published Owner Result) (result : Other) : Published Owner Other :=
  ⟨published.owner, published.events, result⟩

def proceed (owner : Owner) (read : Except Error Value)
    (next : Value → Published Owner (Except Error Result)) :
    Published Owner (Except Error Result) :=
  match read with
  | .ok value => next value
  | .error error => unchanged owner (.error error)

end Published

namespace Catalog

variable {Item : Type}

def add (catalog : Catalog Item) (item : Item) : Catalog Item :=
  { catalog with
    nextToken := catalog.nextToken + 1
    listed := catalog.listed ++ [(catalog.nextToken, item)] }

def get? (catalog : Catalog Item) (token : Nat) : Option Item :=
  Assoc.get? catalog.listed token

def modify (catalog : Catalog Item) (token : Nat) (change : Item → Item) : Catalog Item :=
  match catalog.get? token with
  | some item => { catalog with listed := Assoc.set token (change item) catalog.listed }
  | none => catalog

def drop (catalog : Catalog Item) (token : Nat) : Catalog Item :=
  match catalog.get? token with
  | some item =>
      { catalog with
        listed := Assoc.erase token catalog.listed
        dropped := Assoc.set token item catalog.dropped }
  | none => catalog

def tokens (catalog : Catalog Item) : List Nat := catalog.listed.map (·.1)

def items (catalog : Catalog Item) : List Item := catalog.listed.map (·.2)

def page (catalog : Catalog Item) (start count : Nat) : List Item :=
  (catalog.items.drop start).take count

def tokensWhere (catalog : Catalog Item) (passes : Item → Bool) : List Nat :=
  (catalog.listed.filter fun entry => passes entry.2).map (·.1)

/-- The item that is or was under a token. -/
def read [Inhabited Item] (catalog : Catalog Item) (token : Nat) : Item :=
  match catalog.get? token with
  | some item => item
  | none => (Assoc.get? catalog.dropped token).getD default

end Catalog

end LiveList
