import LiveList.Proofs.View.Scene
import LiveList.Proofs.View.Sortedness
import LiveList.Proofs.View.StableSort

/-!
Rows that are put into a view one by one end up where a stable sort of all of them would have put
them, as long as the order of the rows is consistent.
-/

namespace LiveList

variable {Ref : Type}

def FlushContext.sorting (handler : Handler Ref) (filters : List Filter) (property : PropertyId)
    (ascending : Bool) : FlushContext Ref where
  handler
  filters
  order := handler.compare property ascending

namespace FlushState

def insertEach (context : FlushContext Ref) (state : FlushState Ref) (items : List Ref) :
    FlushState Ref :=
  items.foldl (fun state item => state.insertMatching context item) state

/-- A row was put into the view where a stable sort puts it. -/
structure Inserted (context : FlushContext Ref) (item : Ref) (before after : FlushState Ref) :
    Prop where
  resorted : after.rows.matching = View.stableSort context.order (before.rows.matching ++ [item])
  stable : ∀ rows, View.StablySorts context.order (before.rows.matching ++ [item]) rows ↔
    rows = after.rows.matching
  keys : ∀ k, k ∈ after.rows.matchingKeys ↔
    k = context.handler.key item ∨ k ∈ before.rows.matchingKeys
  /-- The row stands behind all that do not come after it, those in its place among them. -/
  place : ∃ front back, before.rows.matching = front ++ back ∧
    after.rows.matching = front ++ item :: back ∧
    (∀ other ∈ front, context.order other item ≠ .gt) ∧
    (∀ other ∈ back, context.order other item = .gt) ∧
    after.start = if front.length ≤ before.start then before.start + 1 else before.start

variable {context : FlushContext Ref} {state : FlushState Ref} {item : Ref} {items : List Ref}
  {among : Ref → Prop}

theorem insertMatching_inserted (ranked : View.Ranked context.order among) (new : among item)
    (old : ∀ other ∈ state.rows.matching, among other)
    (sorted : View.Sorted context.order state.rows.matching) :
    Inserted context item state (state.insertMatching context item) := by
  obtain ⟨front, back, whole, before, after⟩ := sorted.parted ranked new old
  have place : View.insertionPoint context.order item state.rows.matching = front.length := by
    rw [whole]
    exact View.insertionPoint_eq before after
  have rows : (state.insertMatching context item).rows.matching = front ++ item :: back := by
    show state.rows.matching.insertIdx _ item = _
    rw [place, whole, View.insertIdx_eq_append _ _ _ (by simp), List.take_left, List.drop_left]
  have all : ∀ other ∈ state.rows.matching ++ [item], among other :=
    List.forall_mem_append.mpr ⟨old, List.forall_mem_singleton.mpr new⟩
  have unique (rows : List Ref) :
      View.StablySorts context.order (state.rows.matching ++ [item]) rows ↔
        rows = View.stableSort context.order (state.rows.matching ++ [item]) :=
    View.stablySorts_iff ranked all
  have sorts : View.StablySorts context.order (state.rows.matching ++ [item])
      (state.insertMatching context item).rows.matching := by
    rw [rows, whole]
    rw [whole] at old sorted
    exact View.stablySorts_insert ranked new old sorted before after
  have resorted := (unique _).mp sorts
  refine ⟨resorted, fun rows => (unique rows).trans (by rw [resorted]), fun k => List.mem_cons,
    front, back, whole, rows, before, after, ?_⟩
  show (if View.insertionPoint _ _ _ ≤ _ then _ else _) = _
  rw [place]

theorem insertEach_matching (ranked : View.Ranked context.order among)
    (new : ∀ item ∈ items, among item) (old : ∀ other ∈ state.rows.matching, among other)
    (sorted : View.Sorted context.order state.rows.matching) :
    (state.insertEach context items).rows.matching =
      View.stableSort context.order (state.rows.matching ++ items) := by
  induction items generalizing state with
  | nil =>
      rw [List.append_nil]
      exact (View.stablySorts_iff ranked old).mp ⟨.refl _, sorted, fun _ _ => rfl⟩
  | cons item rest ih =>
      obtain ⟨comes, others⟩ := List.forall_mem_cons.mp new
      have all : ∀ other ∈ state.rows.matching ++ [item], among other :=
        List.forall_mem_append.mpr ⟨old, List.forall_mem_singleton.mpr comes⟩
      -- The list stays in order and consistent, so the next row goes in the same way.
      have first := (insertMatching_inserted ranked comes old sorted).resorted
      have placed : View.Sorted context.order (state.insertMatching context item).rows.matching :=
        first ▸ View.stableSort_sorted ranked all
      have inside : ∀ other ∈ (state.insertMatching context item).rows.matching, among other := by
        intro other member
        rw [first] at member
        exact all other ((View.stableSort_perm _ _).mem_iff.mp member)
      have later := ih others inside placed
      rw [first, View.stableSort_append ranked all others, List.append_assoc] at later
      exact later

end FlushState

open FlushState

/-- If a property orders some items consistently, in a direction, then a row that is put into a view
that is in order goes where a stable sort puts it, and rows that are put in one by one go where one
stable sort of all puts them. -/
theorem insertion_sorts (handler : Handler Ref) (filters : List Filter) (property : PropertyId)
    (ascending : Bool) {among : Ref → Prop}
    (ranked : View.Ranked (handler.compare property ascending) among) (state : FlushState Ref)
    (old : ∀ other ∈ state.rows.matching, among other)
    (sorted : View.Sorted (handler.compare property ascending) state.rows.matching) :
    let context := FlushContext.sorting handler filters property ascending
    (∀ item, among item → Inserted context item state (state.insertMatching context item)) ∧
      ∀ items, (∀ item ∈ items, among item) → ∀ rows,
        View.StablySorts context.order (state.rows.matching ++ items) rows ↔
          rows = (state.insertEach context items).rows.matching := by
  intro context
  refine ⟨fun item new => insertMatching_inserted ranked new old sorted, fun items new rows => ?_⟩
  have all : ∀ item ∈ state.rows.matching ++ items, among item :=
    List.forall_mem_append.mpr ⟨old, new⟩
  have placed : (state.insertEach context items).rows.matching =
      View.stableSort context.order (state.rows.matching ++ items) :=
    insertEach_matching ranked new old sorted
  rw [placed]
  exact View.stablySorts_iff ranked all

/-- Entries in pairs of one tag; a further one of a pair comes, and the window starts at the pair. -/
theorem sampleRows_inserted :
    let handler := Entry.tagged fun id => id / 2
    let context := FlushContext.sorting handler [] 2 true
    let state : FlushState Nat :=
      { rows := { matching := [1, 2, 5], matchingKeys := [1, 2, 5] }, start := 1 }
    let after := state.insertMatching context 3
    View.Ranked context.order (fun _ => True) ∧ View.Sorted context.order state.rows.matching ∧
      Inserted context 3 state after ∧ after.rows.matching = [1, 2, 3, 5] ∧ after.start = 1 ∧
      View.StablySorts context.order [1, 2, 5, 4, 3, 0]
        (state.insertEach context [4, 3, 0]).rows.matching := by
  intro handler context state after
  have ranked : View.Ranked (handler.compare 2 true) fun _ => True := Entry.tagged_ranked _ _
  have sorted : View.Sorted (handler.compare 2 true) state.rows.matching := by decide +kernel
  obtain ⟨one, each⟩ :=
    insertion_sorts handler [] 2 true ranked state (fun _ _ => trivial) sorted
  exact ⟨ranked, sorted, one 3 trivial, by decide +kernel, by decide +kernel,
    (each [4, 3, 0] (fun _ _ => trivial) _).mpr rfl⟩

end LiveList
