import LiveList.Proofs.View.Operations

/-!
Where the changes of a batch put new rows. The rows in the view are in order after a batch exactly if
each new row was put in order among the rows that stay. The place of a row is searched for among all
rows of that moment, though, and one that is about to be taken out may stand out of order.
-/

namespace LiveList

variable {Ref : Type}

/-- Whether a change takes the row with its key out of the view, for good or for another row. -/
def Change.leaves (passes : Ref → Bool) (change : Change Ref) : Bool :=
  match change.kind with
  | .add => change.replaces
  | .remove => true
  | .update => !passes change.item

def stays (key : Ref → Nat) (passes : Ref → Bool) (changes : List (Change Ref)) (item : Ref) : Bool :=
  changes.all fun change => !(change.leaves passes && key change.item == key item)

namespace FlushState

def vacated (context : FlushContext Ref) (state : FlushState Ref) (change : Change Ref) : List Ref :=
  if change.leaves context.passes then
    without context.handler.key (context.handler.key change.item) state.rows.matching
  else state.rows.matching

def Enters (context : FlushContext Ref) (state : FlushState Ref) (change : Change Ref) : Prop :=
  let k := context.handler.key change.item
  context.passes change.item = true ∧
    match change.kind with
    | .add => change.replaces = true ∨ k ∉ state.rows.known.map context.handler.key
    | .remove => False
    | .update => k ∈ state.rows.known.map context.handler.key ∧
        k ∉ state.rows.matching.map context.handler.key

/-- The place that is found for a new row parts the rows that stay: none of those before it comes
after the new row, and none of those from it on comes before. -/
def Parts (order : Ref → Ref → Ordering) (item : Ref) (rows : List Ref) (stays : Ref → Bool) : Prop :=
  let place := View.insertionPoint order item rows
  (∀ other ∈ (rows.take place).filter stays, order other item ≠ .gt) ∧
    ∀ other ∈ (rows.drop place).filter stays, order item other ≠ .gt

/-- Every change of a batch that puts a row into the view puts it in order among those that stay. -/
def Placed (context : FlushContext Ref) : FlushState Ref → List (Change Ref) → Prop
  | _, [] => True
  | state, change :: rest =>
      (state.Enters context change →
        Parts context.order change.item (state.vacated context change)
          (stays context.handler.key context.passes rest)) ∧
      Placed context (state.apply context change) rest

variable {context : FlushContext Ref} {state : FlushState Ref} {change : Change Ref}
  {changes : List (Change Ref)}

theorem stays_cons (key : Ref → Nat) (passes : Ref → Bool) (change : Change Ref)
    (rest : List (Change Ref)) (item : Ref) :
    stays key passes (change :: rest) item =
      (!(change.leaves passes && key change.item == key item) && stays key passes rest item) := rfl

theorem filter_stays_cons (context : FlushContext Ref) (state : FlushState Ref)
    (change : Change Ref) (rest : List (Change Ref)) :
    state.rows.matching.filter (stays context.handler.key context.passes (change :: rest)) =
      (state.vacated context change).filter (stays context.handler.key context.passes rest) := by
  unfold vacated
  by_cases leaves : change.leaves context.passes = true
  · rw [if_pos leaves, without, List.filter_filter]
    apply List.filter_congr
    intro item _
    rw [stays_cons, leaves, Bool.true_and, Bool.and_comm, bne, BEq.comm]
  · rw [if_neg leaves]
    apply List.filter_congr
    intro item _
    simp [stays_cons, leaves]

theorem matching_of_not_known (valid : state.rows.Valid context.handler.key) {k : Nat}
    (absent : k ∉ state.rows.known.map context.handler.key) :
    k ∉ state.rows.matching.map context.handler.key := by
  intro member
  obtain ⟨item, inside, rfl⟩ := List.mem_map.mp member
  exact absent (valid.inside item inside)

/-- The rows in the view after a change: the one with its key out if it leaves, and in at its place
if it enters. -/
theorem apply_matching (valid : state.rows.Valid context.handler.key) (change : Change Ref) :
    (state.Enters context change → (state.apply context change).rows.matching =
        context.place change.item (state.vacated context change)) ∧
      (¬ state.Enters context change → (state.apply context change).rows.matching =
        state.vacated context change) := by
  unfold Enters vacated Change.leaves apply
  cases change.kind with
  | add =>
      dsimp only
      by_cases replaces : change.replaces = true
      · have removed := applyRemove_leaves valid change.item
        have absent : context.handler.key change.item ∉
            (state.applyRemove context change.item).rows.known.map context.handler.key := by
          intro member
          obtain ⟨item, there, same⟩ := List.mem_map.mp member
          exact ((removed.known item).mp there).2 same
        have added := (applyAdd_absent removed.valid absent).matching
        rw [removed.matching] at added
        simp only [replaces, ↓reduceIte, true_or, and_true]
        rw [added]
        by_cases passes : context.passes change.item = true <;> simp [passes]
      · simp only [replaces, Bool.false_eq_true, ↓reduceIte, false_or]
        by_cases present : context.handler.key change.item ∈
            state.rows.known.map context.handler.key
        · simp [applyAdd_present valid present, present]
        · rw [(applyAdd_absent valid present).matching]
          by_cases passes : context.passes change.item = true <;> simp [passes, present]
  | remove => simp [(applyRemove_leaves valid change.item).matching]
  | update =>
      dsimp only
      by_cases present : context.handler.key change.item ∈ state.rows.known.map context.handler.key
      · rw [(applyUpdate_present valid change.changed present).matching]
        by_cases passes : context.passes change.item = true <;>
          by_cases inside : context.handler.key change.item ∈
            state.rows.matching.map context.handler.key <;>
          simp [passes, present, inside]
      · have same := without_absent (matching_of_not_known valid present)
        rw [applyUpdate_absent valid change.changed present]
        by_cases passes : context.passes change.item = true <;> simp [passes, present, same]

theorem filter_place (context : FlushContext Ref) {item : Ref} (rows : List Ref)
    {stays : Ref → Bool} (new : stays item = true) :
    let place := View.insertionPoint context.order item rows
    (context.place item rows).filter stays =
      (rows.take place).filter stays ++ item :: (rows.drop place).filter stays := by
  intro place
  have inside : place ≤ rows.length := View.insertionPoint_le _ _ _
  rw [FlushContext.place, View.insertIdx_eq_append _ _ _ inside, List.filter_append,
    List.filter_cons_of_pos new]

theorem sorted_place_iff (context : FlushContext Ref) {item : Ref} {rows : List Ref}
    {stays : Ref → Bool} (new : stays item = true)
    (sorted : View.Sorted context.order (rows.filter stays)) :
    View.Sorted context.order ((context.place item rows).filter stays) ↔
      Parts context.order item rows stays := by
  rw [← List.take_append_drop (View.insertionPoint context.order item rows) rows,
    List.filter_append] at sorted
  rw [filter_place context rows new]
  exact sorted.insert_iff

/-- No later change has the key of the first one, so a row that it puts in stays. -/
theorem stays_of_distinct {rest : List (Change Ref)}
    (distinct : ((change :: rest).map fun change => context.handler.key change.item).Nodup) :
    stays context.handler.key context.passes rest change.item = true := by
  rw [List.map_cons, List.nodup_cons] at distinct
  apply List.all_eq_true.mpr
  intro other member
  have different : context.handler.key other.item ≠ context.handler.key change.item := fun same =>
    distinct.1 (List.mem_map.mpr ⟨other, member, same⟩)
  simp [different]

theorem stays_sublist (valid : state.rows.Valid context.handler.key)
    (distinct : (changes.map fun change => context.handler.key change.item).Nodup) :
    (state.rows.matching.filter (stays context.handler.key context.passes changes)).Sublist
      (changes.foldl (apply context) state).rows.matching := by
  induction changes generalizing state with
  | nil => exact List.filter_sublist
  | cons change rest ih =>
      have later := ih (apply_valid valid change) (List.nodup_cons.mp distinct).2
      rw [filter_stays_cons]
      refine List.Sublist.trans ?_ later
      by_cases enters : state.Enters context change
      · rw [(apply_matching valid change).1 enters,
          filter_place context _ (stays_of_distinct distinct)]
        generalize View.insertionPoint context.order change.item
          (state.vacated context change) = place
        have whole : (state.vacated context change).filter
            (stays context.handler.key context.passes rest) =
            ((state.vacated context change).take place).filter
                (stays context.handler.key context.passes rest) ++
              ((state.vacated context change).drop place).filter
                (stays context.handler.key context.passes rest) := by
          rw [← List.filter_append, List.take_append_drop]
        rw [whole]
        exact (List.Sublist.refl _).append (List.sublist_cons_self _ _)
      · have same := (apply_matching valid change).2 enters
        exact same.symm ▸ List.Sublist.refl _

/-- If the rows that stay are in order, then after the batch all rows are, exactly if every new one
was put in order among those that stay. -/
theorem foldl_sorted_iff (context : FlushContext Ref) {state : FlushState Ref}
    (valid : state.rows.Valid context.handler.key)
    (distinct : (changes.map fun change => context.handler.key change.item).Nodup)
    (sorted : View.Sorted context.order
      (state.rows.matching.filter (stays context.handler.key context.passes changes))) :
    View.Sorted context.order (changes.foldl (apply context) state).rows.matching ↔
      Placed context state changes := by
  induction changes generalizing state with
  | nil =>
      have all : state.rows.matching.filter (stays context.handler.key context.passes []) =
          state.rows.matching := List.filter_eq_self.mpr fun _ _ => rfl
      rw [all] at sorted
      exact ⟨fun _ => trivial, fun _ => sorted⟩
  | cons change rest ih =>
      have after := apply_valid valid change
      have apart := (List.nodup_cons.mp distinct).2
      rw [filter_stays_cons] at sorted
      rw [List.foldl_cons, Placed]
      by_cases enters : state.Enters context change
      · have placed := sorted_place_iff context (stays_of_distinct distinct) sorted
        rw [← (apply_matching valid change).1 enters] at placed
        constructor
        · intro whole
          have parts := placed.mp (whole.sublist (stays_sublist after apart))
          exact ⟨fun _ => parts, (ih after apart (placed.mpr parts)).mp whole⟩
        · rintro ⟨parts, later⟩
          exact (ih after apart (placed.mpr (parts enters))).mpr later
      · rw [← (apply_matching valid change).2 enters] at sorted
        constructor
        · intro whole
          exact ⟨fun here => absurd here enters, (ih after apart sorted).mp whole⟩
        · intro placed
          exact (ih after apart sorted).mpr placed.2

/-- Rows that are all in order are a good place to search. -/
theorem placed_of_sorted {among : Ref → Prop} (ranked : View.Ranked context.order among)
    (valid : state.rows.Valid context.handler.key)
    (old : ∀ item ∈ state.rows.matching, among item)
    (new : ∀ change ∈ changes, change.kind ≠ .remove → among change.item)
    (sorted : View.Sorted context.order state.rows.matching) : Placed context state changes := by
  induction changes generalizing state with
  | nil => trivial
  | cons change rest ih =>
      have fewer : (state.vacated context change).Sublist state.rows.matching := by
        unfold vacated
        split
        · exact List.filter_sublist
        · exact List.Sublist.refl _
      have vacant : ∀ item ∈ state.vacated context change, among item := fun item member =>
        old item (fewer.subset member)
      have still := sorted.sublist fewer
      have others : ∀ other ∈ rest, other.kind ≠ .remove → among other.item := fun other member =>
        new other (List.mem_cons_of_mem change member)
      by_cases enters : state.Enters context change
      · have kind : change.kind ≠ .remove := by
          intro remove
          simp [Enters, remove] at enters
        have comes := new change List.mem_cons_self kind
        -- All rows are in order at that moment, those that are still to go as well.
        have parts := still.insertionPoint ranked comes vacant
        have matching := (apply_matching valid change).1 enters
        refine ⟨fun _ => ?_, ih (apply_valid valid change) ?_ others ?_⟩
        · exact ⟨fun other member => parts.1 other (List.mem_filter.mp member).1,
            fun other member => parts.2 other (List.mem_filter.mp member).1⟩
        · intro item member
          rw [matching] at member
          rcases List.mem_cons.mp ((context.place_perm _ _).mem_iff.mp member) with rfl | there
          · exact comes
          · exact vacant item there
        · have whole : View.Sorted context.order
              ((state.vacated context change).take
                  (View.insertionPoint context.order change.item (state.vacated context change)) ++
                (state.vacated context change).drop
                  (View.insertionPoint context.order change.item (state.vacated context change))) :=
            (List.take_append_drop _ _).symm ▸ still
          rw [matching, FlushContext.place,
            View.insertIdx_eq_append _ _ _ (View.insertionPoint_le _ _ _)]
          exact whole.insert_iff.mpr parts
      · have matching := (apply_matching valid change).2 enters
        refine ⟨fun here => absurd here enters, ih (apply_valid valid change) ?_ others ?_⟩
        · rw [matching]
          exact vacant
        · rw [matching]
          exact still

end FlushState

end LiveList
