import LiveList.Entry.Basic
import LiveList.Proofs.View.Replica
import LiveList.Proofs.View.Ticking

/-!
A view together with the source that it listens to and the reader of its deltas. The source lists
items with different keys, their values change, and it tells the view of every item that comes, goes
or changes, in the order in which that happens. The owner of the view may do anything in between.
-/

namespace LiveList

variable {Ref : Type}

/-- The ids that stand for something in a table: those of its properties, and their positions. -/
def PropertyTable.Has (table : PropertyTable) (id : PropertyId) : Prop :=
  (∃ property ∈ table, property.id = id) ∨ id < table.length

/-- Two readings of the same items that differ at most in the properties that were touched. -/
structure Handler.Alike (before after : Handler Ref) (touched : Ref → PropertyId → Prop) :
    Prop where
  key : after.key = before.key
  table : after.table = before.table
  number : ∀ item id, before.table.Has id → ¬ touched item id →
    after.number item id = before.number item id
  text : ∀ item id, before.table.Has id → ¬ touched item id →
    after.text item id = before.text item id
  custom : ∀ item id, before.table.Has id → ¬ touched item id →
    after.custom item id = before.custom item id
  order : ∀ first second id, before.table.Has id → ¬ touched first id → ¬ touched second id →
    after.order first second id = before.order first second id

namespace Handler.Alike

variable {before after : Handler Ref} {touched : Ref → PropertyId → Prop} {item : Ref}
  {property : Property}

theorem matchesProperty (alike : before.Alike after touched) (filter : Filter)
    (listed : property ∈ before.table) (still : ¬ touched item property.id) :
    filter.matchesProperty after item property = filter.matchesProperty before item property := by
  have has : before.table.Has property.id := .inl ⟨property, listed, rfl⟩
  unfold Filter.matchesProperty
  rw [alike.text item _ has still, alike.number item _ has still]

theorem passAll (alike : before.Alike after touched) (filters : List Filter)
    (still : ∀ id, ¬ touched item id) :
    Filter.passAll filters after item = Filter.passAll filters before item := by
  have each (filter : Filter) : filter.passes after item = filter.passes before item := by
    unfold Filter.passes
    rw [alike.table]
    split
    · have same : ∀ property ∈ before.table, after.text item property.id =
          before.text item property.id := fun property listed =>
        alike.text item _ (.inl ⟨property, listed, rfl⟩) (still property.id)
      rw [Bool.eq_iff_iff, List.any_eq_true, List.any_eq_true]
      constructor
      · rintro ⟨property, listed, found⟩
        exact ⟨property, listed, same property listed ▸ found⟩
      · rintro ⟨property, listed, found⟩
        exact ⟨property, listed, (same property listed).symm ▸ found⟩
    · split
      · rename_i property found
        exact alike.matchesProperty filter (List.mem_of_getElem? found) (still property.id)
      · rfl
  unfold Filter.passAll
  simp only [each]

theorem compare (alike : before.Alike after touched) (id : PropertyId) (ascending : Bool)
    {first second : Ref} (left : ¬ touched first id) (right : ¬ touched second id) :
    after.compare id ascending first second = before.compare id ascending first second := by
  unfold Handler.compare
  rw [alike.table]
  cases found : before.table[id]? with
  | none => rfl
  | some property =>
      obtain ⟨inside, _⟩ := List.getElem?_eq_some_iff.mp found
      have has : before.table.Has id := .inr inside
      simp only [alike.number first id has left, alike.number second id has right,
        alike.text first id has left, alike.text second id has right,
        alike.order first second id has left right]

theorem propertyJson (alike : before.Alike after touched) (listed : property ∈ before.table)
    (still : ¬ touched item property.id) :
    after.propertyJson item property = before.propertyJson item property := by
  have has : before.table.Has property.id := .inl ⟨property, listed, rfl⟩
  unfold Handler.propertyJson
  rw [alike.text item _ has still, alike.number item _ has still, alike.custom item _ has still]

theorem mono (alike : before.Alike after touched) {more : Ref → PropertyId → Prop}
    (less : ∀ item id, touched item id → more item id) : before.Alike after more where
  key := alike.key
  table := alike.table
  number item id has still := alike.number item id has fun touch => still (less item id touch)
  text item id has still := alike.text item id has fun touch => still (less item id touch)
  custom item id has still := alike.custom item id has fun touch => still (less item id touch)
  order first second id has left right :=
    alike.order first second id has (fun touch => left (less first id touch))
      fun touch => right (less second id touch)

/-- References to items of which some are other items now: at most the properties of these differ. -/
theorem comap {Item : Type} (handler : Handler Item) (before after : Ref → Item)
    (same : ∀ ref, handler.key (after ref) = handler.key (before ref)) :
    (handler.comap before).Alike (handler.comap after)
      (fun ref id => after ref ≠ before ref ∧ handler.table.Has id) := by
  have kept {ref : Ref} {id : PropertyId} (has : handler.table.Has id)
      (still : ¬ (after ref ≠ before ref ∧ handler.table.Has id)) : after ref = before ref :=
    Classical.byContradiction fun other => still ⟨other, has⟩
  refine ⟨funext same, rfl, ?_, ?_, ?_, ?_⟩
  · exact fun ref id has still => congrArg (handler.number · id) (kept has still)
  · exact fun ref id has still => congrArg (handler.text · id) (kept has still)
  · exact fun ref id has still => congrArg (handler.custom · id) (kept has still)
  · intro first second id has left right
    simp only [Handler.comap, kept has left, kept has right]

end Handler.Alike

def Entry.tagged (tags : Nat → Nat) : Handler Nat :=
  Entry.handler.comap fun id => { id, tag := tags id }

theorem Entry.tagged_alike (before after : Nat → Nat) :
    (Entry.tagged before).Alike (Entry.tagged after)
      (fun ref id => after ref ≠ before ref ∧ Entry.properties.Has id) := by
  refine (Handler.Alike.comap Entry.handler (fun id => { id, tag := before id })
    (fun id => { id, tag := after id }) fun _ => rfl).mono ?_
  rintro ref id ⟨different, has⟩
  refine ⟨fun same => different ?_, has⟩
  rw [same]

structure Scene (Ref : Type) where
  /-- How items are read now. -/
  handler : Handler Ref
  /-- The items of the source. -/
  listed : List Ref
  view : ListView Ref
  /-- The copy of the view that its reader keeps. -/
  replica : Replica
  /-- Items that changed, with no word of an update since. -/
  unheard : Ref → Prop
  /-- Properties of items that changed, with no update since that names them. -/
  unnamed : Ref → PropertyId → Prop
  /-- The source was read anew, with no flush since. -/
  reread : Prop

namespace Scene

def start (handler : Handler Ref) (listed : List Ref) : Scene Ref where
  handler := handler
  listed := listed
  view := {}
  replica := {}
  unheard _ := False
  unnamed _ _ := False
  reread := False

/-- Values of items change, without a word yet; the source may list its items in another order. -/
def change (scene : Scene Ref) (handler : Handler Ref) (listed : List Ref)
    (touched : Ref → PropertyId → Prop) : Scene Ref :=
  { scene with
    handler
    listed
    unheard := fun item => scene.unheard item ∨ ∃ id, touched item id
    unnamed := fun item id => scene.unnamed item id ∨ touched item id }

def add (scene : Scene Ref) (item : Ref) (listed : List Ref) : Scene Ref :=
  { scene with
    listed
    view := scene.view.hearAdded scene.handler item
    unheard := fun other => scene.unheard other ∧ other ≠ item
    unnamed := fun other id => scene.unnamed other id ∧ other ≠ item }

def remove (scene : Scene Ref) (item : Ref) (listed : List Ref) : Scene Ref :=
  { scene with
    listed
    view := scene.view.hearRemoved scene.handler item }

def update (scene : Scene Ref) (items : List Ref) (changed : PropertySet) : Scene Ref :=
  { scene with
    view := scene.view.hearAllUpdated scene.handler items changed
    unheard := fun other => scene.unheard other ∧ other ∉ items
    unnamed := fun other id => scene.unnamed other id ∧ ¬ (other ∈ items ∧ id ∈ changed) }

def act (scene : Scene Ref) (act : ViewAct) : Scene Ref :=
  let step := scene.view.act scene.handler scene.listed act
  { scene with
    view := step.view
    replica := scene.replica.followAll step.effects
    -- The rows are marked as unsorted when they are read, and no more after a flush.
    reread := (act = .command .reload ∨ scene.reread) ∧ step.view.rows.unsorted = true }

def Heard (scene : Scene Ref) : Prop := ∀ item ∈ scene.listed, ¬ scene.unheard item

def Named (scene : Scene Ref) : Prop := ∀ item ∈ scene.listed, ∀ id, ¬ scene.unnamed item id

def Flushable (scene : Scene Ref) : Prop :=
  scene.view.phase = .active ∧ scene.view.settings.sortProperty.isSome

def Permits (allowed : Scene Ref → Prop) (scene : Scene Ref) (act : ViewAct) : Prop :=
  ∀ before, scene.view.flushing scene.handler act = some before →
    Flushable { scene with view := before } → allowed { scene with view := before }

/-- A property that was not named is still not, unless it is one of the item that comes. -/
theorem unnamed_add {scene : Scene Ref} {changed : PropertySet} (item : Ref) (row : Ref)
    (id : PropertyId) (missing : scene.unnamed row id) :
    (scene.unnamed row id ∧ row ≠ item) ∨
      scene.handler.key row = scene.handler.key item ∧ (ChangeKind.add = .update → id ∈ changed) := by
  by_cases same : row = item
  · refine .inr ⟨congrArg _ same, ?_⟩
    rintro ⟨⟩
  · exact .inl ⟨missing, same⟩

/-- One thing that happens. The source tells the view of an item at the moment when it comes or
goes, and of changed values at any later moment. -/
inductive Step (allowed : Scene Ref → Prop) (scene : Scene Ref) : Scene Ref → Prop where
  | change (handler : Handler Ref) (listed : List Ref) (touched : Ref → PropertyId → Prop)
      (alike : scene.handler.Alike handler touched) (same : listed.Perm scene.listed) :
      Step allowed scene (scene.change handler listed touched)
  | add (item : Ref) (listed : List Ref)
      (fresh : scene.handler.key item ∉ scene.listed.map scene.handler.key)
      (more : listed.Perm (item :: scene.listed)) : Step allowed scene (scene.add item listed)
  | remove (item : Ref) (listed : List Ref) (fewer : scene.listed.Perm (item :: listed)) :
      Step allowed scene (scene.remove item listed)
  | update (items : List Ref) (changed : PropertySet)
      (present : ∀ item ∈ items, item ∈ scene.listed) :
      Step allowed scene (scene.update items changed)
  | act (act : ViewAct) (permits : scene.Permits allowed act) : Step allowed scene (scene.act act)

inductive Run (allowed : Scene Ref → Prop) (first : Scene Ref) : Scene Ref → Prop where
  | rest : Run allowed first first
  | next {middle last : Scene Ref} (run : Run allowed first middle)
      (step : Step allowed middle last) : Run allowed first last

variable {allowed : Scene Ref → Prop} {first last : Scene Ref}

theorem Run.keep {holds : Scene Ref → Prop}
    (kept : ∀ before after, Step allowed before after → holds before → holds after)
    (run : Run allowed first last) (start : holds first) : holds last := by
  induction run with
  | rest => exact start
  | next _ step ih => exact kept _ _ step ih

/-- Neither the keys of items nor the table of properties ever change. -/
theorem Run.fixed (run : Run allowed first last) :
    last.handler.key = first.handler.key ∧ last.handler.table = first.handler.table := by
  induction run with
  | rest => exact ⟨rfl, rfl⟩
  | next _ step ih =>
      cases step with
      | change handler listed touched alike same =>
          exact ⟨alike.key.trans ih.1, alike.table.trans ih.2⟩
      | add | remove | update | act => exact ih

/-- An item that changed without a word has a property that changed and was not named. -/
theorem Run.covered (run : Run allowed first last)
    (start : ∀ item, first.unheard item → ∃ id, first.unnamed item id) :
    ∀ item, last.unheard item → ∃ id, last.unnamed item id := by
  induction run with
  | rest => exact start
  | next _ step ih =>
      cases step with
      | change handler listed touched alike same =>
          rintro item (unheard | ⟨id, touch⟩)
          · obtain ⟨id, unnamed⟩ := ih item unheard
            exact ⟨id, .inl unnamed⟩
          · exact ⟨id, .inr touch⟩
      | add added listed fresh more =>
          rintro item ⟨unheard, other⟩
          obtain ⟨id, unnamed⟩ := ih item unheard
          exact ⟨id, unnamed, other⟩
      | remove => exact ih
      | update items changed present =>
          rintro item ⟨unheard, other⟩
          obtain ⟨id, unnamed⟩ := ih item unheard
          exact ⟨id, unnamed, fun named => other named.1⟩
      | act => exact ih

theorem Named.heard {scene : Scene Ref} (named : scene.Named)
    (covered : ∀ item, scene.unheard item → ∃ id, scene.unnamed item id) : scene.Heard := by
  intro item lists unheard
  obtain ⟨id, unnamed⟩ := covered item unheard
  exact named item lists id unnamed

theorem Run.heard (run : Run allowed first last)
    (named : ∀ scene, allowed scene → scene.Named)
    (start : ∀ item, first.unheard item → ∃ id, first.unnamed item id) : Run Heard first last := by
  induction run with
  | rest => exact .rest
  | next run step ih =>
      refine ih.next ?_
      cases step with
      | change handler listed touched alike same => exact .change handler listed touched alike same
      | add item listed fresh more => exact .add item listed fresh more
      | remove item listed fewer => exact .remove item listed fewer
      | update items changed present => exact .update items changed present
      | act act permits =>
          refine .act act fun before flushes flushable => ?_
          exact Named.heard (named _ (permits before flushes flushable)) (run.covered start)

theorem Run.timed (run : Run allowed first last) (timed : first.view.Timed) :
    last.view.Timed := by
  induction run with
  | rest => exact timed
  | next _ step ih =>
      cases step with
      | change => exact ih
      | add item => exact ih.hear .add item []
      | remove item => exact ih.hear .remove item []
      | update items changed => exact ih.hearAll items changed
      | act act =>
          exact (ListView.act_motions act).keep ListView.Timed
            (fun _ _ _ motion timed => timed.motion motion) ih

/-- An act that flushes comes down to a flush. -/
theorem act_eq {scene : Scene Ref} {act : ViewAct} {before : ListView Ref}
    (flushes : scene.view.flushing scene.handler act = some before) (timed : scene.view.Timed) :
    scene.act act = { scene with
      view := (before.flush scene.handler).view
      replica := scene.replica.followAll (before.flush scene.handler).effects
      reread := (act = .command .reload ∨ scene.reread) ∧
        (before.flush scene.handler).view.rows.unsorted = true } := by
  unfold Scene.act
  rw [ListView.act_flushes flushes timed]

end Scene

end LiveList
