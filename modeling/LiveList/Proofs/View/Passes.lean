import LiveList.View.Flush

/-!
A flush part by part: when it runs, the picture it starts from, the picture after all waiting
changes, the window that is kept, and the delta that is told.
-/

namespace LiveList

variable {Ref : Type}

structure Rows.Kept (before after : Rows Ref) : Prop where
  unsorted : after.unsorted = before.unsorted
  sortedBy : after.sortedBy = before.sortedBy
  window : after.window = before.window
  toldMatching : after.toldMatching = before.toldMatching
  toldTotal : after.toldTotal = before.toldTotal
  toldStart : after.toldStart = before.toldStart

theorem Rows.Kept.refl (rows : Rows Ref) : rows.Kept rows := ⟨rfl, rfl, rfl, rfl, rfl, rfl⟩

theorem Rows.Kept.trans {first second third : Rows Ref} (left : first.Kept second)
    (right : second.Kept third) : first.Kept third where
  unsorted := right.unsorted.trans left.unsorted
  sortedBy := right.sortedBy.trans left.sortedBy
  window := right.window.trans left.window
  toldMatching := right.toldMatching.trans left.toldMatching
  toldTotal := right.toldTotal.trans left.toldTotal
  toldStart := right.toldStart.trans left.toldStart

theorem Rows.insert_kept (rows : Rows Ref) (key : Nat) (item : Ref) :
    rows.Kept (rows.insert key item).2 := by
  unfold Rows.insert
  split <;> exact ⟨rfl, rfl, rfl, rfl, rfl, rfl⟩

theorem Rows.insertAll_kept (handler : Handler Ref) (rows : Rows Ref) (items : List Ref) :
    rows.Kept (rows.insertAll handler items) :=
  List.foldlRecOn items _ (Kept.refl rows) fun _ kept item _ =>
    kept.trans (insert_kept _ _ item)

namespace FlushState

variable (context : FlushContext Ref) (state : FlushState Ref)

theorem insertMatching_kept (item : Ref) :
    state.rows.Kept (state.insertMatching context item).rows := ⟨rfl, rfl, rfl, rfl, rfl, rfl⟩

theorem removeMatching_kept (key : Nat) :
    state.rows.Kept (state.removeMatching context key).rows := by
  unfold removeMatching
  split
  · dsimp only
    split <;> exact ⟨rfl, rfl, rfl, rfl, rfl, rfl⟩
  · exact .refl _

theorem applyAdd_kept (item : Ref) : state.rows.Kept (state.applyAdd context item).rows := by
  let taken : FlushState Ref := { state with
    rows := (state.rows.insert (context.handler.key item) item).2 }
  have first : state.rows.Kept taken.rows := state.rows.insert_kept _ item
  dsimp only [applyAdd]
  split
  · exact first.trans (insertMatching_kept context taken item)
  · exact first

theorem applyRemove_kept (item : Ref) : state.rows.Kept (state.applyRemove context item).rows := by
  unfold applyRemove
  dsimp only
  split
  · exact .refl _
  · rename_i arrival _
    let dropped : FlushState Ref := { state with
      rows := { state.rows with
        index := Assoc.erase (context.handler.key item) state.rows.index
        items := Assoc.erase arrival state.rows.items } }
    have first : state.rows.Kept dropped.rows := ⟨rfl, rfl, rfl, rfl, rfl, rfl⟩
    exact first.trans (removeMatching_kept context dropped _)

theorem applyUpdate_kept (item : Ref) (changed : PropertySet) :
    state.rows.Kept (state.applyUpdate context item changed).rows := by
  unfold applyUpdate
  dsimp only
  split
  · exact .refl _
  · rename_i arrival _
    let stored : FlushState Ref := { state with
      rows := { state.rows with items := Assoc.set arrival item state.rows.items } }
    have first : state.rows.Kept stored.rows := ⟨rfl, rfl, rfl, rfl, rfl, rfl⟩
    split
    · split
      · exact first
      · exact first.trans (removeMatching_kept context stored _)
    · split
      · exact first.trans (insertMatching_kept context stored item)
      · exact first

theorem apply_kept (change : Change Ref) : state.rows.Kept (state.apply context change).rows := by
  unfold apply
  cases change.kind with
  | add =>
      dsimp only
      split
      · exact (applyRemove_kept context state _).trans (applyAdd_kept context _ _)
      · exact applyAdd_kept context state _
  | remove => exact applyRemove_kept context state _
  | update => exact applyUpdate_kept context state _ _

theorem foldl_kept (changes : List (Change Ref)) :
    state.rows.Kept (changes.foldl (FlushState.apply context) state).rows := by
  induction changes generalizing state with
  | nil => exact .refl _
  | cons change rest ih => exact (apply_kept context state change).trans (ih _)

end FlushState

namespace ListView

variable (handler : Handler Ref) (property : PropertyId) (view : ListView Ref)

structure Ready (view : ListView Ref) (property : PropertyId) : Prop where
  active : view.phase = .active
  sorted : view.settings.sortProperty = some property
  news : view.hasNews = true

theorem there_of_active {view : ListView Ref} (active : view.phase = .active) :
    view.phase ≠ .inactive := by
  rw [active]
  rintro ⟨⟩

theorem Ready.there {view : ListView Ref} {property : PropertyId} (ready : view.Ready property) :
    view.phase ≠ .inactive :=
  there_of_active ready.active

theorem Ready.sortable {view : ListView Ref} {property : PropertyId} (ready : view.Ready property) :
    view.settings.sortProperty.isSome := by
  rw [ready.sorted, Option.isSome_some]

def passContext : FlushContext Ref :=
  { handler
    filters := view.filters.compiled
    order := handler.compare property view.settings.sortAscending }

def passStart : FlushState Ref :=
  { rows := sortedRows (view.passContext handler property)
      (property, view.settings.sortAscending) view.changes.batch.updatedProperties view.rows
    start := view.settings.rangeStart }

def passEnd : FlushState Ref :=
  view.changes.batch.changes.foldl (FlushState.apply (view.passContext handler property))
    (view.passStart handler property)

def passOffset : Nat :=
  let state := view.passEnd handler property
  if state.start < state.rows.matching.length then state.start else 0

def passWindow : List Ref :=
  ((view.passEnd handler property).rows.matching.drop (view.passOffset handler property)).take
    view.settings.maxCount

def passRetells : Bool :=
  let keys := (view.passWindow handler property).map handler.key
  keys != (view.passEnd handler property).rows.window ||
    keys.any (Assoc.contains (view.passEnd handler property).updated) || view.settings.changed

def passDelta : Delta Nat :=
  let state := view.passEnd handler property
  let start := view.passOffset handler property
  { rows :=
      if view.passRetells handler property then
        some (deltaRows handler state.rows.window state.updated (view.passWindow handler property))
      else none
    rangeStart := if view.settings.changed then some start else ifNews state.rows.toldStart start
    rangeOffset :=
      if start = view.settings.rangeStart then none
      else some ((start : Int) - (view.settings.rangeStart : Int))
    matchingItems := ifNews state.rows.toldMatching state.rows.matching.length
    totalItems := ifNews state.rows.toldTotal state.rows.items.length }

def passed : ListView Ref :=
  let state := view.passEnd handler property
  let start := view.passOffset handler property
  { view with
    settings := { view.settings with rangeStart := start, changed := false }
    changes := {}
    rows := { state.rows with
      window := (view.passWindow handler property).map handler.key
      toldStart := some start
      toldMatching := some state.rows.matching.length
      toldTotal := some state.rows.items.length } }

/-- Up to the end of the pass the view remembers what was told by the flush before. -/
theorem passEnd_told :
    (view.passEnd handler property).rows.window = view.rows.window ∧
      (view.passEnd handler property).rows.toldStart = view.rows.toldStart ∧
      (view.passEnd handler property).rows.toldMatching = view.rows.toldMatching ∧
      (view.passEnd handler property).rows.toldTotal = view.rows.toldTotal := by
  have kept : (view.passStart handler property).rows.Kept (view.passEnd handler property).rows :=
    FlushState.foldl_kept _ _ _
  rw [kept.window, kept.toldStart, kept.toldMatching, kept.toldTotal]
  unfold passStart sortedRows
  dsimp only
  split <;> exact ⟨rfl, rfl, rfl, rfl⟩

theorem passEnd_sorted : (view.passEnd handler property).rows.unsorted = false := by
  have kept : (view.passStart handler property).rows.Kept (view.passEnd handler property).rows :=
    FlushState.foldl_kept _ _ _
  rw [kept.unsorted]
  unfold passStart sortedRows
  dsimp only
  split
  · rfl
  · rename_i still
    simp only [Bool.or_eq_true, not_or, Bool.not_eq_true] at still
    exact still.2

variable {view property}

theorem flushed_ready (ready : view.Ready property) :
    view.flushed handler = (view.passed handler property,
      if (view.passDelta handler property).isEmpty then none
      else some (view.passDelta handler property)) := by
  unfold flushed
  split
  · rename_i other active sorted
    obtain rfl : other = property := Option.some.inj (sorted.symm.trans ready.sorted)
    rw [if_pos ready.news]
    rfl
  · rename_i neither
    exact absurd ready.sorted (neither property ready.active)

theorem flushed_idle (idle : ∀ property, ¬ view.Ready property) :
    view.flushed handler = (view, none) := by
  unfold flushed
  split
  · rename_i property active sorted
    split
    · rename_i news
      exact absurd ⟨active, sorted, news⟩ (idle property)
    · rfl
  · rfl

theorem flush_ready (ready : view.Ready property) :
    (view.flush handler).view = view.passed handler property := by
  simp only [flush, flushed_ready handler ready]

theorem flush_effects (ready : view.Ready property) :
    (view.flush handler).effects =
      if (view.passDelta handler property).isEmpty then []
      else [.told (view.passDelta handler property)] := by
  simp only [flush, flushed_ready handler ready]
  split <;> rfl

theorem flush_idle (idle : ∀ property, ¬ view.Ready property) :
    view.flush handler = { view } := by
  simp only [flush, flushed_idle handler idle]
  rfl

theorem passed_quiet : (view.passed handler property).hasNews = false := by
  have sorted := view.passEnd_sorted handler property
  simp [hasNews, passed, Changes.isEmpty, sorted]

end ListView

end LiveList
