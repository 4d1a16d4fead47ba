import LiveList.Hub.Entry
import LiveList.Proofs.View.Convergence
import LiveList.Proofs.View.Tracking
import LiveList.Queue.Bundle
import LiveList.Search.Result
import LiveList.Share.Root

/-!
The properties in the reader's copy. A row that is new in the window is told with all properties, one
that was there before only with those that an update named. After a flush the copy has the properties
of every row exactly if each one that differs from what was told before is told now.
-/

namespace LiveList

variable {Ref : Type}

/-- Every property stands at the place that is its id, and no two have the same name. -/
structure PropertyTable.Proper (table : PropertyTable) : Prop where
  placed : ∀ (id : PropertyId) (property : Property), table[id]? = some property → property.id = id
  named : (table.map (·.name)).Nodup

section Fields

variable {handler : Handler Ref} {ids : PropertySet} {item : Ref} {property : Property}
  {name : String} {json : Json}

namespace PropertyTable.Proper

variable {table : PropertyTable}

theorem of_range (ids : table.map (·.id) = List.range table.length)
    (named : (table.map (·.name)).Nodup) : table.Proper where
  placed id property found := by
    obtain ⟨inside, _⟩ := List.getElem?_eq_some_iff.mp found
    have there : (table.map (·.id))[id]? = some property.id := by
      rw [List.getElem?_map, found, Option.map_some]
    rw [ids, List.getElem?_range inside] at there
    exact (Option.some.inj there).symm
  named := named

theorem getElem? (proper : table.Proper) (listed : property ∈ table) :
    table[property.id]? = some property := by
  obtain ⟨place, found⟩ := List.mem_iff_getElem?.mp listed
  rwa [proper.placed place property found]

theorem same_name (proper : table.Proper) {other : Property} (listed : property ∈ table)
    (there : other ∈ table) (same : other.name = property.name) : other = property := by
  have left := proper.getElem? there
  have right := proper.getElem? listed
  have inside : other.id < (table.map (·.name)).length := by
    rw [List.length_map]
    exact (List.getElem?_eq_some_iff.mp left).1
  have place : other.id = property.id := by
    refine (List.getElem?_inj inside proper.named).mp ?_
    rw [List.getElem?_map, List.getElem?_map, left, right, Option.map_some, Option.map_some, same]
  rw [place, right] at left
  exact (Option.some.inj left).symm

end PropertyTable.Proper

theorem Entry.properties_proper : Entry.properties.Proper := .of_range (by decide) (by decide)

theorem properties_proper : Bundle.properties.Proper ∧ ShareRoot.properties.Proper ∧
    FavoriteHub.properties.Proper ∧ SearchResult.properties.Proper :=
  ⟨.of_range (by decide) (by decide), .of_range (by decide) (by decide),
    .of_range (by decide) (by decide), .of_range (by decide) (by decide)⟩

theorem Handler.mem_fields : (name, json) ∈ handler.fields ids item ↔
    ∃ id ∈ ids, ∃ property, handler.table[id]? = some property ∧ property.name = name ∧
      handler.propertyJson item property = json := by
  simp [Handler.fields]

theorem Handler.mem_keys_fields (named : name ∈ Assoc.keys (handler.fields ids item)) :
    name ∈ handler.table.map (·.name) := by
  obtain ⟨json, member⟩ := Assoc.mem_keys.mp named
  obtain ⟨id, _, property, found, same, _⟩ := Handler.mem_fields.mp member
  exact List.mem_map.mpr ⟨property, List.mem_of_getElem? found, same⟩

theorem Handler.fields_value (proper : handler.table.Proper) (listed : property ∈ handler.table)
    (member : (property.name, json) ∈ handler.fields ids item) :
    property.id ∈ ids ∧ json = handler.propertyJson item property := by
  obtain ⟨id, inside, other, found, same, rfl⟩ := Handler.mem_fields.mp member
  obtain rfl := proper.same_name listed (List.mem_of_getElem? found) same
  rw [proper.placed id other found]
  exact ⟨inside, rfl⟩

theorem Handler.name_mem_fields (proper : handler.table.Proper) (listed : property ∈ handler.table) :
    property.name ∈ Assoc.keys (handler.fields ids item) ↔ property.id ∈ ids := by
  constructor
  · intro named
    obtain ⟨json, member⟩ := Assoc.mem_keys.mp named
    exact (Handler.fields_value proper listed member).1
  · intro inside
    exact Assoc.mem_keys.mpr
      ⟨_, Handler.mem_fields.mpr ⟨_, inside, property, proper.getElem? listed, rfl, rfl⟩⟩

theorem Handler.get?_fields (proper : handler.table.Proper) (listed : property ∈ handler.table) :
    Assoc.get? (handler.fields ids item) property.name =
      if property.id ∈ ids then some (handler.propertyJson item property) else none := by
  cases found : Assoc.get? (handler.fields ids item) property.name with
  | none =>
      rw [if_neg]
      exact fun inside =>
        Assoc.get?_eq_none.mp found ((Handler.name_mem_fields proper listed).mpr inside)
  | some json =>
      obtain ⟨inside, value⟩ := Handler.fields_value proper listed (Assoc.mem_of_get? found)
      rw [if_pos inside, value]

end Fields

namespace Replica

variable {replica : Replica} {known fields : List (String × Json)} {name : String} {json : Json}

theorem get?_overlay (agree : ∀ value, (name, value) ∈ fields → value = json) :
    Assoc.get? (overlay known fields) name =
      if name ∈ Assoc.keys fields then some json else Assoc.get? known name := by
  unfold overlay
  induction fields generalizing known with
  | nil => rfl
  | cons field rest ih =>
      rw [List.foldl_cons, ih fun value member => agree value (List.mem_cons_of_mem field member),
        Assoc.get?_set]
      have names : name ∈ Assoc.keys (field :: rest) ↔ name = field.1 ∨ name ∈ Assoc.keys rest :=
        List.mem_cons
      by_cases here : name = field.1
      · have value := agree field.2 (here ▸ List.mem_cons_self)
        rw [if_pos here, if_pos (names.mpr (.inl here)), value]
        split <;> rfl
      · simp only [names, here, false_or, ↓reduceIte]

theorem mem_keys_overlay : name ∈ Assoc.keys (overlay known fields) ↔
    name ∈ Assoc.keys known ∨ name ∈ Assoc.keys fields := by
  unfold overlay
  induction fields generalizing known with
  | nil => simp [Assoc.keys]
  | cons field rest ih =>
      rw [List.foldl_cons, ih, Assoc.mem_keys_set]
      simp only [Assoc.keys, List.map_cons, List.mem_cons]
      rw [or_assoc, or_left_comm]

theorem get?_overlay_fields {handler : Handler Ref} {ids : PropertySet} {item : Ref}
    {property : Property} (proper : handler.table.Proper) (listed : property ∈ handler.table) :
    Assoc.get? (overlay known (handler.fields ids item)) property.name =
      if property.id ∈ ids then some (handler.propertyJson item property)
      else Assoc.get? known property.name := by
  rw [get?_overlay fun _ member => (Handler.fields_value proper listed member).2]
  simp only [Handler.name_mem_fields proper listed]

theorem properties_of_mem {row : ReplicaRow} (distinct : (replica.rows.map (·.id)).Nodup)
    (member : row ∈ replica.rows) : replica.properties row.id = row.properties := by
  have found : replica.rows.find? (·.id == row.id) = some row :=
    (holder_eq_some distinct).mpr ⟨member, rfl⟩
  simp [properties, found]

theorem properties_absent {id : Nat} (absent : id ∉ replica.rows.map (·.id)) :
    replica.properties id = [] := by
  have missing : replica.rows.find? (·.id == id) = none := holder_eq_none.mpr absent
  simp [properties, missing]

def Within (table : PropertyTable) (replica : Replica) : Prop :=
  ∀ row ∈ replica.rows, ∀ name ∈ Assoc.keys row.properties, name ∈ table.map (·.name)

theorem Within.properties {table : PropertyTable} (within : replica.Within table) {id : Nat}
    (named : name ∈ Assoc.keys (replica.properties id)) : name ∈ table.map (·.name) := by
  unfold Replica.properties at named
  cases found : replica.rows.find? (·.id == id) with
  | none =>
      rw [found] at named
      cases named
  | some row =>
      rw [found] at named
      exact within row (List.mem_of_find?_eq_some found) name named

/-- The copy has all properties of an item as they are, and nothing else by its key. -/
def Has (handler : Handler Ref) (item : Ref) (replica : Replica) : Prop :=
  ∀ name, Assoc.get? (replica.properties (handler.key item)) name =
    Assoc.get? (handler.fields handler.table.ids item) name

theorem Within.has_iff {handler : Handler Ref} {item : Ref} (within : replica.Within handler.table)
    (proper : handler.table.Proper) :
    replica.Has handler item ↔ ∀ property ∈ handler.table,
      Assoc.get? (replica.properties (handler.key item)) property.name =
        some (handler.propertyJson item property) := by
  constructor
  · intro has property listed
    rw [has, Handler.get?_fields proper listed,
      if_pos (PropertyTable.mem_ids.mpr ⟨property, listed, rfl⟩)]
  · intro each name
    by_cases names : name ∈ handler.table.map (·.name)
    · obtain ⟨property, listed, rfl⟩ := List.mem_map.mp names
      rw [each property listed, Handler.get?_fields proper listed,
        if_pos (PropertyTable.mem_ids.mpr ⟨property, listed, rfl⟩)]
    · rw [Assoc.get?_eq_none.mpr fun named => names (within.properties named),
        Assoc.get?_eq_none.mpr fun named => names (Handler.mem_keys_fields named)]

end Replica

/-- Properties are to be told of a row that stays in the view exactly if it was there before, and
they are named by an update. -/
theorem Cell.settle_told {passes : Ref → Bool} {waiting : Option (Change Ref)} {cell : Cell Ref}
    (inside : cell.shown.isSome → cell.known.isSome) (silent : cell.told = none)
    (stays : (cell.settle passes waiting).shown.isSome) (id : PropertyId) :
    (∃ ids, (cell.settle passes waiting).told = some ids ∧ id ∈ ids) ↔
      cell.shown.isSome ∧
        ∃ change, waiting = some change ∧ change.kind = .update ∧ id ∈ change.changed := by
  cases waiting with
  | none => simp [settle, silent]
  | some change =>
      simp only [settle, Option.some.injEq, exists_eq_left'] at stays ⊢
      cases kind : change.kind with
      | add =>
          have untold : (cell.turn passes change).told = none := by
            unfold turn
            rw [kind]
            cases cell.known with
            | none => exact silent
            | some old =>
                dsimp only
                split <;> exact silent
          simp [untold]
      | remove => simp [turn_remove kind, silent]
      | update =>
          cases known : cell.known with
          | none =>
              have same : cell.turn passes change = cell := by
                simp only [turn, kind, known]
              -- A row that stays would have to be known.
              rw [same] at stays
              have knows := inside stays
              rw [known] at knows
              cases knows
          | some old =>
              rw [turn_update kind known] at stays ⊢
              have passing : passes change.item = true := by
                by_cases fails : passes change.item = true
                · exact fails
                · simp [fails] at stays
              simp only [passing, silent, true_and, Option.getD_none]
              cases shown : cell.shown with
              | none => simp
              | some row => simp [PropertySet.mem_union]

namespace ListView

variable {handler : Handler Ref} {view : ListView Ref} {replica : Replica} {property : PropertyId}
  {item : Ref}

def Fresh (handler : Handler Ref) (view : ListView Ref) (replica : Replica) : Prop :=
  ∀ item ∈ view.shown, replica.Has handler item

/-- An update that waits names a property of a row that is in the view already. -/
def Names (key : Ref → Nat) (view : ListView Ref) (item : Ref) (id : PropertyId) : Prop :=
  key item ∈ view.rows.matching.map key ∧ ∃ change,
    view.changes.waiting (key item) = some change ∧ change.kind = .update ∧ id ∈ change.changed

/-- Of every row that a flush leaves in the window and that was told before, the copy has each
property as it is, unless an update names it. -/
def Accounted (handler : Handler Ref) (property : PropertyId) (view : ListView Ref)
    (replica : Replica) : Prop :=
  ∀ item ∈ view.passWindow handler property, handler.key item ∈ view.rows.window →
    ∀ other ∈ handler.table,
      Assoc.get? (replica.properties (handler.key item)) other.name =
          some (handler.propertyJson item other) ∨
        view.Names handler.key item other.id

theorem shown_passed : (view.passed handler property).shown = view.passWindow handler property :=
  page_eq _ _ _

theorem passWindow_sublist :
    (view.passWindow handler property).Sublist (view.passEnd handler property).rows.matching :=
  (List.take_sublist _ _).trans (List.drop_sublist _ _)

theorem Sound.inside (sound : view.Sound handler.key) (k : Nat)
    (shown : (view.cell handler.key k).shown.isSome) : (view.cell handler.key k).known.isSome := by
  obtain ⟨item, found⟩ := Option.isSome_iff_exists.mp shown
  have member := sound.rows.inside item (holder_mem found)
  rw [holder_key found] at member
  rw [Option.isSome_iff_ne_none]
  exact fun unknown => holder_eq_none.mp unknown member

/-- A flush has properties to tell of a row in its window exactly if an update names them. -/
theorem passEnd_names (sound : view.Sound handler.key)
    (member : item ∈ view.passWindow handler property) (id : PropertyId) :
    (∃ ids, Assoc.get? (view.passEnd handler property).updated (handler.key item) = some ids ∧
      id ∈ ids) ↔ view.Names handler.key item id := by
  have turned := sound.passEnd_cell property (handler.key item)
  have there := (holder_eq_some (sound.passEnd property).distinct).mpr
    ⟨passWindow_sublist.subset member, rfl⟩
  have stays : ((view.cell handler.key (handler.key item)).settle
      (view.passContext handler property).passes
      (view.changes.waiting (handler.key item))).shown.isSome := by
    rw [← turned]
    exact Option.isSome_iff_exists.mpr ⟨item, there⟩
  have told := Cell.settle_told (sound.inside _) rfl stays id
  rw [← turned] at told
  refine told.trans (and_congr_left fun _ => ?_)
  rw [Option.isSome_iff_ne_none, ne_eq, cell, holder_eq_none]
  exact Decidable.not_not

def passFields (handler : Handler Ref) (property : PropertyId) (view : ListView Ref) (item : Ref) :
    List (String × Json) :=
  if handler.key item ∈ view.rows.window then
    match Assoc.get? (view.passEnd handler property).updated (handler.key item) with
    | none => []
    | some ids => handler.fields ids item
  else handler.fields handler.table.ids item

theorem mem_deltaRows {known : List Nat} {updated : List (Nat × PropertySet)} {window : List Ref}
    {row : DeltaRow Nat} (member : row ∈ deltaRows handler known updated window) :
    ∃ item ∈ window, row.id = handler.key item ∧ row.properties =
      if handler.key item ∈ known then
        (Assoc.get? updated (handler.key item)).map fun changed => handler.fields changed item
      else some (handler.fields handler.table.ids item) := by
  obtain ⟨place, inside, rfl⟩ := List.mem_mapIdx.mp member
  refine ⟨window[place], List.getElem_mem inside, rfl, ?_⟩
  simp only [List.contains_iff_mem]

theorem properties_passed (sound : view.Sound handler.key)
    (member : item ∈ view.passWindow handler property) :
    (replica.learn (view.passDelta handler property)).properties (handler.key item) =
      Replica.overlay (replica.properties (handler.key item))
        (view.passFields handler property item) := by
  have shown : ((view.passWindow handler property).map handler.key).Nodup :=
    (sound.passEnd property).distinct.sublist (passWindow_sublist.map handler.key)
  by_cases retells : view.passRetells handler property = true
  · have ids : (deltaRows handler view.rows.window (view.passEnd handler property).updated
        (view.passWindow handler property)).map (·.id) =
          (view.passWindow handler property).map handler.key := deltaRows_ids _ _ _
    obtain ⟨row, told, same⟩ := List.mem_map.mp
      (ids ▸ List.mem_map.mpr ⟨item, member, rfl⟩)
    obtain ⟨other, there, keyed, properties⟩ := mem_deltaRows told
    -- Rows in the window have different keys, so the row is the one that is told of the item.
    obtain rfl : other = item := by
      have first := (holder_eq_some shown).mpr ⟨there, keyed.symm.trans same⟩
      have second := (holder_eq_some shown).mpr ⟨member, rfl⟩
      exact Option.some.inj (first.symm.trans second)
    have distinct : ((replica.learn (view.passDelta handler property)).rows.map (·.id)).Nodup := by
      rw [learn_rows, if_pos retells, List.map_map]
      exact ids.symm ▸ shown
    have received : replica.receive row ∈ (replica.learn (view.passDelta handler property)).rows := by
      rw [learn_rows, if_pos retells]
      exact List.mem_map.mpr ⟨row, told, rfl⟩
    rw [← same]
    refine (Replica.properties_of_mem distinct received).trans ?_
    simp only [Replica.receive, passFields, properties, same]
    split
    · cases Assoc.get? (view.passEnd handler property).updated (handler.key other) <;> rfl
    · rfl
  · have rows : (replica.learn (view.passDelta handler property)).rows = replica.rows := by
      rw [learn_rows, if_neg retells]
    simp only [Bool.not_eq_true, passRetells, Bool.or_eq_false_iff, bne_eq_false_iff_eq,
      (view.passEnd_told handler property).1, List.any_eq_false, List.mem_map,
      forall_exists_index, and_imp, forall_apply_eq_imp_iff₂] at retells
    have known : handler.key item ∈ view.rows.window :=
      retells.1.1 ▸ List.mem_map.mpr ⟨item, member, rfl⟩
    have unnamed : Assoc.get? (view.passEnd handler property).updated (handler.key item) = none := by
      simpa [Assoc.contains] using retells.1.2 item member
    simp only [Replica.properties, rows, passFields, known, unnamed, ↓reduceIte]
    rfl

theorem within_passed (within : replica.Within handler.table) :
    (replica.learn (view.passDelta handler property)).Within handler.table := by
  intro row member name named
  rw [learn_rows] at member
  split at member
  · obtain ⟨told, there, rfl⟩ := List.mem_map.mp member
    obtain ⟨item, _, _, properties⟩ := mem_deltaRows there
    rcases Replica.mem_keys_overlay.mp named with old | new
    · exact within.properties old
    · rw [properties] at new
      split at new
      · cases ids : Assoc.get? (view.passEnd handler property).updated (handler.key item) with
        | none =>
            rw [ids] at new
            cases new
        | some ids =>
            rw [ids] at new
            exact Handler.mem_keys_fields new
      · exact Handler.mem_keys_fields new
  · exact within row member name named

/-- After a flush the copy has all properties of the rows in the window exactly if each that differs
from what was told before was named. -/
theorem fresh_passed_iff (proper : handler.table.Proper) (sound : view.Sound handler.key)
    (told : replica.Told view.rows) (within : replica.Within handler.table) :
    (view.passed handler property).Fresh handler (replica.learn (view.passDelta handler property)) ↔
      view.Accounted handler property replica := by
  unfold Fresh Accounted
  rw [shown_passed]
  refine forall_congr' fun item => forall_congr' fun member => ?_
  rw [(within_passed within).has_iff proper, properties_passed sound member]
  have names := passEnd_names sound member
  unfold passFields
  by_cases known : handler.key item ∈ view.rows.window
  · simp only [known, ↓reduceIte, forall_const]
    refine forall_congr' fun other => forall_congr' fun listed => ?_
    rw [← names other.id]
    cases Assoc.get? (view.passEnd handler property).updated (handler.key item) with
    | none => simp [Replica.overlay]
    | some ids =>
        simp only [Replica.get?_overlay_fields proper listed, Option.some.injEq, exists_eq_left']
        split <;> simp [*]
  · -- A new row is told in full, and nothing was known of it.
    have nothing : replica.properties (handler.key item) = [] :=
      Replica.properties_absent (told.ids ▸ known)
    simp only [known, ↓reduceIte, false_implies, iff_true]
    intro other listed
    rw [Replica.get?_overlay_fields proper listed,
      if_pos (PropertyTable.mem_ids.mpr ⟨other, listed, rfl⟩)]

end ListView

end LiveList
