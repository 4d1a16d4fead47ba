import LiveList.Json.Basic

/-!
Properties: what can be known about an item of one kind. A table lists the properties of a kind;
a property's position in its table is its id.
-/

namespace LiveList

inductive ValueKind where
  | text
  | numeric
  | size
  | time
  | speed
  | bool
  | custom
  deriving DecidableEq, Repr

def ValueKind.isNumeric : ValueKind → Bool
  | .numeric | .size | .time | .speed | .bool => true
  | .text | .custom => false

inductive SortMethod where
  | none
  | numeric
  | text
  | custom
  deriving DecidableEq, Repr

inductive WireForm where
  | text
  | numeric
  | bool
  | custom
  deriving DecidableEq, Repr

abbrev PropertyId := Nat

structure Property where
  id : PropertyId
  name : String
  kind : ValueKind
  sort : SortMethod
  wire : WireForm
  deriving DecidableEq, Repr

namespace Property

def text (id : PropertyId) (name : String) : Property := ⟨id, name, .text, .text, .text⟩

def numeric (id : PropertyId) (name : String) (kind : ValueKind) : Property :=
  ⟨id, name, kind, .numeric, .numeric⟩

def boolean (id : PropertyId) (name : String) : Property := ⟨id, name, .bool, .numeric, .bool⟩

def custom (id : PropertyId) (name : String) (sort : SortMethod) : Property :=
  ⟨id, name, .custom, sort, .custom⟩

def isSortable (property : Property) : Bool := property.sort != .none

end Property

abbrev PropertyTable := List Property

def PropertyTable.named? (table : PropertyTable) (name : String) : Option Property :=
  table.find? fun property => property.name == name

abbrev PropertySet := List PropertyId

namespace PropertySet

def insert (id : PropertyId) : PropertySet → PropertySet
  | [] => [id]
  | other :: rest =>
      if id < other then id :: other :: rest
      else if id = other then other :: rest
      else other :: insert id rest

def ofIds (ids : List PropertyId) : PropertySet :=
  ids.foldl (fun set id => insert id set) []

def union (left right : PropertySet) : PropertySet :=
  right.foldl (fun set id => insert id set) left

end PropertySet

def PropertyTable.ids (table : PropertyTable) : PropertySet :=
  PropertySet.ofIds (table.map (·.id))

theorem PropertySet.mem_insert {id other : PropertyId} {set : PropertySet} :
    other ∈ PropertySet.insert id set ↔ other = id ∨ other ∈ set := by
  induction set with
  | nil => simp [insert]
  | cons first rest ih =>
      simp only [insert]
      split
      · simp
      · split
        · rename_i same
          subst same
          simp
        · simp only [List.mem_cons, ih]
          constructor
          · rintro (here | here | here)
            · exact .inr (.inl here)
            · exact .inl here
            · exact .inr (.inr here)
          · rintro (here | here | here)
            · exact .inr (.inl here)
            · exact .inl here
            · exact .inr (.inr here)

theorem PropertySet.mem_union {id : PropertyId} {left right : PropertySet} :
    id ∈ PropertySet.union left right ↔ id ∈ left ∨ id ∈ right := by
  unfold PropertySet.union
  induction right generalizing left with
  | nil => simp
  | cons first rest ih =>
      rw [List.foldl_cons, ih, PropertySet.mem_insert, List.mem_cons, or_assoc, or_left_comm]

theorem PropertySet.mem_ofIds {id : PropertyId} {ids : List PropertyId} :
    id ∈ PropertySet.ofIds ids ↔ id ∈ ids := by
  show id ∈ PropertySet.union [] ids ↔ id ∈ ids
  simp [PropertySet.mem_union]

theorem PropertyTable.mem_ids {table : PropertyTable} {id : PropertyId} :
    id ∈ table.ids ↔ ∃ property ∈ table, property.id = id := by
  rw [PropertyTable.ids, PropertySet.mem_ofIds, List.mem_map]

end LiveList
