import LiveList.Proofs.View.Representation

/-!
The operations of a flush on the rows of a view: which items are known afterwards, which rows are in
the view and where, and of which of them properties are to be told. Valid rows stay valid.
-/

namespace LiveList

variable {Ref : Type}

def FlushContext.passes (context : FlushContext Ref) (item : Ref) : Bool :=
  Filter.passAll context.filters context.handler item

def FlushContext.place (context : FlushContext Ref) (item : Ref) (rows : List Ref) : List Ref :=
  rows.insertIdx (View.insertionPoint context.order item rows) item

theorem FlushContext.place_perm (context : FlushContext Ref) (item : Ref) (rows : List Ref) :
    (context.place item rows).Perm (item :: rows) :=
  List.perm_insertIdx _ _ (View.insertionPoint_le _ _ _)

def without (key : Ref → Nat) (k : Nat) (rows : List Ref) : List Ref :=
  rows.filter fun item => key item != k

theorem mem_without {key : Ref → Nat} {k : Nat} {rows : List Ref} {item : Ref} :
    item ∈ without key k rows ↔ item ∈ rows ∧ key item ≠ k := by
  simp [without]

theorem without_absent {key : Ref → Nat} {k : Nat} {rows : List Ref} (absent : k ∉ rows.map key) :
    without key k rows = rows := by
  apply List.filter_eq_self.mpr
  intro item member
  have different : key item ≠ k := fun same => absent (List.mem_map.mpr ⟨item, member, same⟩)
  simpa using different

theorem eraseP_eq_without {key : Ref → Nat} {rows : List Ref} (distinct : (rows.map key).Nodup)
    (k : Nat) : (rows.eraseP fun item => key item == k) = without key k rows := by
  induction rows with
  | nil => rfl
  | cons item rest ih =>
      rw [List.map_cons, List.nodup_cons] at distinct
      by_cases here : key item = k
      · rw [List.eraseP_cons_of_pos (by simpa using here), without,
          List.filter_cons_of_neg (by simpa using here)]
        exact (without_absent (here ▸ distinct.1)).symm
      · rw [List.eraseP_cons_of_neg (by simpa using here), without,
          List.filter_cons_of_pos (by simpa using here), ih distinct.2, without]

namespace FlushState

variable {context : FlushContext Ref} {state : FlushState Ref} {item : Ref}

/-- What an operation leaves: rows that are valid, the items that are known, the rows in the view,
and the properties to be told. -/
structure Leaves (key : Ref → Nat) (after : FlushState Ref) (known : Ref → Prop)
    (matching : List Ref) (updated : List (Nat × PropertySet)) : Prop where
  valid : after.rows.Valid key
  known : ∀ item, item ∈ after.rows.known ↔ known item
  matching : after.rows.matching = matching
  updated : after.updated = updated

theorem removeMatching_items (context : FlushContext Ref) (state : FlushState Ref) (k : Nat) :
    (state.removeMatching context k).rows.items = state.rows.items ∧
      (state.removeMatching context k).rows.index = state.rows.index ∧
      (state.removeMatching context k).rows.nextArrival = state.rows.nextArrival ∧
      (state.removeMatching context k).updated = state.updated := by
  unfold removeMatching
  split
  · dsimp only
    split <;> exact ⟨rfl, rfl, rfl, rfl⟩
  · exact ⟨rfl, rfl, rfl, rfl⟩

theorem removeMatching_matching (keyed : state.rows.Keyed context.handler.key) (k : Nat) :
    (state.removeMatching context k).rows.matching =
      without context.handler.key k state.rows.matching := by
  unfold removeMatching
  by_cases present : state.rows.matchingKeys.contains k = true
  · rw [if_pos present, ← eraseP_eq_without keyed.distinct, List.eraseP_eq_eraseIdx]
    dsimp only
    split
    · rename_i place found
      rw [found]
    · rename_i found
      rw [found]
  · rw [if_neg present]
    have absent : k ∉ state.rows.matching.map context.handler.key := by
      intro member
      exact present (List.contains_iff_mem.mpr ((keyed.keys k).mpr member))
    exact (without_absent absent).symm

theorem removeMatching_keyed (keyed : state.rows.Keyed context.handler.key) (k : Nat) :
    (state.removeMatching context k).rows.Keyed context.handler.key where
  distinct := by
    rw [removeMatching_matching keyed k]
    exact keyed.distinct.sublist (List.Sublist.map _ List.filter_sublist)
  keys other := by
    rw [removeMatching_matching keyed k]
    have kept : other ∈ (state.removeMatching context k).rows.matchingKeys ↔
        other ∈ state.rows.matchingKeys ∧ other ≠ k := by
      unfold removeMatching
      split
      · dsimp only
        split <;> simp
      · rename_i absent
        have missing : k ∉ state.rows.matchingKeys := fun member =>
          absent (List.contains_iff_mem.mpr member)
        constructor
        · intro member
          exact ⟨member, fun same => missing (same ▸ member)⟩
        · exact (·.1)
    rw [kept, keyed.keys]
    simp only [List.mem_map, mem_without]
    constructor
    · rintro ⟨⟨item, member, rfl⟩, different⟩
      exact ⟨item, ⟨member, different⟩, rfl⟩
    · rintro ⟨item, ⟨member, different⟩, rfl⟩
      exact ⟨⟨item, member, rfl⟩, different⟩

theorem insertMatching_keyed (keyed : state.rows.Keyed context.handler.key)
    (absent : context.handler.key item ∉ state.rows.matching.map context.handler.key) :
    (state.insertMatching context item).rows.Keyed context.handler.key := by
  have placed : (state.insertMatching context item).rows.matching.Perm
      (item :: state.rows.matching) := context.place_perm item _
  constructor
  · rw [(placed.map _).nodup_iff, List.map_cons, List.nodup_cons]
    exact ⟨absent, keyed.distinct⟩
  · intro other
    rw [(placed.map _).mem_iff, List.map_cons, List.mem_cons, ← keyed.keys]
    exact List.mem_cons

theorem removeMatching_leaves (context : FlushContext Ref) (state : FlushState Ref)
    (indexed : state.rows.Indexed context.handler.key)
    (keyed : state.rows.Keyed context.handler.key) {k : Nat}
    (inside : ∀ item ∈ state.rows.matching, context.handler.key item ≠ k →
      context.handler.key item ∈ state.rows.known.map context.handler.key) :
    Leaves context.handler.key (state.removeMatching context k) (· ∈ state.rows.known)
      (without context.handler.key k state.rows.matching) state.updated := by
  obtain ⟨items, index, next, updated⟩ := removeMatching_items context state k
  have known : (state.removeMatching context k).rows.known = state.rows.known := by
    unfold Rows.known
    rw [items]
  have matching := removeMatching_matching keyed k
  refine ⟨⟨⟨?_, ?_, ?_, ?_⟩, removeMatching_keyed keyed k, ?_⟩, ?_, matching, updated⟩
  · rw [items]
    exact indexed.arrivals
  · rw [items, next]
    exact indexed.early
  · rw [index]
    exact indexed.once
  · rw [items, index]
    exact indexed.index
  · intro item member
    rw [matching, mem_without] at member
    rw [known]
    exact inside item member.1 member.2
  · intro item
    rw [known]

theorem insertMatching_leaves (context : FlushContext Ref) (state : FlushState Ref)
    (indexed : state.rows.Indexed context.handler.key)
    (keyed : state.rows.Keyed context.handler.key)
    (inside : ∀ item ∈ state.rows.matching,
      context.handler.key item ∈ state.rows.known.map context.handler.key)
    (absent : context.handler.key item ∉ state.rows.matching.map context.handler.key)
    (present : context.handler.key item ∈ state.rows.known.map context.handler.key) :
    Leaves context.handler.key (state.insertMatching context item) (· ∈ state.rows.known)
      (context.place item state.rows.matching) state.updated where
  valid := {
    toIndexed := ⟨indexed.arrivals, indexed.early, indexed.once, indexed.index⟩
    toKeyed := insertMatching_keyed keyed absent
    inside := by
      intro other member
      rcases List.mem_cons.mp ((context.place_perm item _).mem_iff.mp member) with rfl | old
      · exact present
      · exact inside other old }
  known _ := Iff.rfl
  matching := rfl
  updated := rfl

theorem applyRemove_leaves (valid : state.rows.Valid context.handler.key) (item : Ref) :
    Leaves context.handler.key (state.applyRemove context item)
      (fun other => other ∈ state.rows.known ∧
        context.handler.key other ≠ context.handler.key item)
      (without context.handler.key (context.handler.key item) state.rows.matching)
      state.updated := by
  unfold applyRemove
  dsimp only
  split
  · rename_i absent
    have unknown := valid.index_eq_none.mp absent
    refine ⟨valid, ?_, ?_, rfl⟩
    · intro other
      constructor
      · intro member
        exact ⟨member, fun same => unknown (List.mem_map.mpr ⟨other, member, same⟩)⟩
      · exact (·.1)
    · refine (without_absent ?_).symm
      intro member
      obtain ⟨row, member, same⟩ := List.mem_map.mp member
      exact unknown (same ▸ valid.inside row member)
  · rename_i arrival found
    let forgotten : FlushState Ref := { state with
      rows := { state.rows with
        index := Assoc.erase (context.handler.key item) state.rows.index
        items := Assoc.erase arrival state.rows.items } }
    have known (other : Ref) : other ∈ forgotten.rows.known ↔ other ∈ state.rows.known ∧
        context.handler.key other ≠ context.handler.key item :=
      valid.mem_known_forget found
    have left : Leaves context.handler.key
        (forgotten.removeMatching context (context.handler.key item)) (· ∈ forgotten.rows.known)
        (without context.handler.key (context.handler.key item) state.rows.matching)
        state.updated := by
      refine removeMatching_leaves context forgotten (valid.forget found) ⟨valid.distinct, valid.keys⟩ ?_
      intro row member different
      obtain ⟨other, old, same⟩ := List.mem_map.mp (valid.inside row member)
      refine List.mem_map.mpr ⟨other, (known other).mpr ⟨old, ?_⟩, same⟩
      rwa [same]
    exact ⟨left.valid, fun other => (left.known other).trans (known other), left.matching,
      left.updated⟩

theorem applyAdd_present (valid : state.rows.Valid context.handler.key)
    (present : context.handler.key item ∈ state.rows.known.map context.handler.key) :
    state.applyAdd context item = state := by
  have found : Assoc.contains state.rows.index (context.handler.key item) = true := by
    rw [Assoc.contains, Option.isSome_iff_ne_none]
    intro absent
    exact valid.index_eq_none.mp absent present
  simp [applyAdd, Rows.insert, found]

theorem applyAdd_absent (valid : state.rows.Valid context.handler.key)
    (absent : context.handler.key item ∉ state.rows.known.map context.handler.key) :
    Leaves context.handler.key (state.applyAdd context item)
      (fun other => other ∈ state.rows.known ∨ other = item)
      (if context.passes item then context.place item state.rows.matching
        else state.rows.matching) state.updated := by
  -- The item is taken in first, and then put into the view if it passes the filters.
  let taken : FlushState Ref := { state with
    rows := (state.rows.insert (context.handler.key item) item).2 }
  have indexed : taken.rows.Indexed context.handler.key := valid.insert item
  have added := (Rows.insert_added valid.toIndexed item).mpr absent
  have whole : taken.rows.known = state.rows.known ++ [item] := by
    have known := valid.known_insert item
    rwa [if_neg absent] at known
  have known (other : Ref) : other ∈ taken.rows.known ↔
      other ∈ state.rows.known ∨ other = item := by
    rw [whole, List.mem_append, List.mem_singleton]
  have missing : Assoc.contains state.rows.index (context.handler.key item) = false := by
    rw [Assoc.contains, valid.index_eq_none.mpr absent]
    rfl
  have matching : taken.rows.matching = state.rows.matching := by
    simp [taken, Rows.insert, missing]
  have keyed : taken.rows.Keyed context.handler.key := by
    refine ⟨by rw [matching]; exact valid.distinct, ?_⟩
    rw [matching]
    simpa [taken, Rows.insert, missing] using valid.keys
  have inside : ∀ row ∈ taken.rows.matching,
      context.handler.key row ∈ taken.rows.known.map context.handler.key := by
    intro row member
    rw [whole, List.map_append]
    exact List.mem_append_left _ (valid.inside row (matching ▸ member))
  have step : state.applyAdd context item =
      if context.passes item then taken.insertMatching context item else taken := by
    simp only [applyAdd, added, Bool.true_and]
    rfl
  rw [step]
  split
  · have new : context.handler.key item ∉ taken.rows.matching.map context.handler.key := by
      rw [matching]
      intro member
      obtain ⟨row, member, same⟩ := List.mem_map.mp member
      exact absent (same ▸ valid.inside row member)
    have present : context.handler.key item ∈ taken.rows.known.map context.handler.key :=
      List.mem_map.mpr ⟨item, (known item).mpr (.inr rfl), rfl⟩
    have left := insertMatching_leaves context taken indexed keyed inside new present
    exact ⟨left.valid, fun other => (left.known other).trans (known other),
      left.matching.trans (by rw [matching]), left.updated⟩
  · exact ⟨⟨indexed, keyed, inside⟩, known, matching, rfl⟩

def retold (state : FlushState Ref) (k : Nat) (changed : PropertySet) : List (Nat × PropertySet) :=
  Assoc.set k (PropertySet.union ((Assoc.get? state.updated k).getD []) changed) state.updated

theorem applyUpdate_absent (valid : state.rows.Valid context.handler.key) (changed : PropertySet)
    (absent : context.handler.key item ∉ state.rows.known.map context.handler.key) :
    state.applyUpdate context item changed = state := by
  simp [applyUpdate, valid.index_eq_none.mpr absent]

theorem applyUpdate_present (valid : state.rows.Valid context.handler.key) (changed : PropertySet)
    (present : context.handler.key item ∈ state.rows.known.map context.handler.key) :
    let k := context.handler.key item
    let rows := state.rows.matching
    let inside := k ∈ rows.map context.handler.key
    Leaves context.handler.key (state.applyUpdate context item changed)
      (fun other => other = item ∨ other ∈ state.rows.known ∧ context.handler.key other ≠ k)
      (if context.passes item then if inside then rows else context.place item rows
        else without context.handler.key k rows)
      (if context.passes item ∧ inside then state.retold k changed else state.updated) := by
  intro k rows inside
  obtain ⟨arrival, found⟩ : ∃ arrival, Assoc.get? state.rows.index k = some arrival := by
    cases found : Assoc.get? state.rows.index k with
    | none => exact absurd present (valid.index_eq_none.mp found)
    | some arrival => exact ⟨arrival, rfl⟩
  -- The item takes the place of the known one first. A row with its key then has a known key still.
  let stored : FlushState Ref := { state with
    rows := { state.rows with items := Assoc.set arrival item state.rows.items } }
  have indexed : stored.rows.Indexed context.handler.key := valid.store found
  have known (other : Ref) : other ∈ stored.rows.known ↔
      other = item ∨ other ∈ state.rows.known ∧ context.handler.key other ≠ k :=
    valid.mem_known_store found
  have keyed : stored.rows.Keyed context.handler.key := ⟨valid.distinct, valid.keys⟩
  have new : k ∈ stored.rows.known.map context.handler.key :=
    List.mem_map.mpr ⟨item, (known item).mpr (.inl rfl), rfl⟩
  have still : ∀ row ∈ stored.rows.matching,
      context.handler.key row ∈ stored.rows.known.map context.handler.key := by
    intro row member
    by_cases same : context.handler.key row = k
    · rw [same]
      exact new
    · obtain ⟨other, old, keyed⟩ := List.mem_map.mp (valid.inside row member)
      refine List.mem_map.mpr ⟨other, (known other).mpr (.inr ⟨old, ?_⟩), keyed⟩
      rwa [keyed]
  have contains : state.rows.matchingKeys.contains k = true ↔ inside := by
    rw [List.contains_iff_mem]
    exact valid.keys k
  have step : state.applyUpdate context item changed =
      if state.rows.matchingKeys.contains k then
        if context.passes item then { stored with updated := state.retold k changed }
        else stored.removeMatching context k
      else if context.passes item then stored.insertMatching context item
      else stored := by
    unfold applyUpdate
    simp only [show Assoc.get? state.rows.index (context.handler.key item) = some arrival from found]
    rfl
  rw [step]
  by_cases here : inside <;> by_cases passes : context.passes item = true
  · rw [if_pos (contains.mpr here), if_pos passes]
    simp only [passes, here, ↓reduceIte, true_and]
    exact ⟨⟨indexed, keyed, still⟩, known, rfl, rfl⟩
  · rw [if_pos (contains.mpr here), if_neg passes]
    simp only [passes, Bool.false_eq_true, ↓reduceIte, false_and]
    have left : Leaves context.handler.key (stored.removeMatching context k)
        (· ∈ stored.rows.known) (without context.handler.key k rows) state.updated :=
      removeMatching_leaves context stored indexed keyed fun row member _ => still row member
    exact ⟨left.valid, fun other => (left.known other).trans (known other), left.matching,
      left.updated⟩
  · rw [if_neg (fun inside => here (contains.mp inside)), if_pos passes]
    simp only [passes, here, ↓reduceIte, and_false]
    have left := insertMatching_leaves context stored indexed keyed still here new
    exact ⟨left.valid, fun other => (left.known other).trans (known other), left.matching,
      left.updated⟩
  · rw [if_neg (fun inside => here (contains.mp inside)), if_neg passes]
    simp only [passes, Bool.false_eq_true, ↓reduceIte, false_and]
    exact ⟨⟨indexed, keyed, still⟩, known, (without_absent here).symm, rfl⟩

theorem apply_valid (valid : state.rows.Valid context.handler.key) (change : Change Ref) :
    (state.apply context change).rows.Valid context.handler.key := by
  have add (state : FlushState Ref) (valid : state.rows.Valid context.handler.key) :
      (state.applyAdd context change.item).rows.Valid context.handler.key := by
    by_cases present : context.handler.key change.item ∈ state.rows.known.map context.handler.key
    · rwa [applyAdd_present valid present]
    · exact (applyAdd_absent valid present).valid
  unfold apply
  cases change.kind with
  | add =>
      dsimp only
      split
      · exact add _ (applyRemove_leaves valid change.item).valid
      · exact add state valid
  | remove => exact (applyRemove_leaves valid change.item).valid
  | update =>
      by_cases present : context.handler.key change.item ∈ state.rows.known.map context.handler.key
      · exact (applyUpdate_present valid change.changed present).valid
      · show (state.applyUpdate context change.item change.changed).rows.Valid context.handler.key
        rwa [applyUpdate_absent valid change.changed present]

theorem foldl_valid (context : FlushContext Ref) {state : FlushState Ref}
    (valid : state.rows.Valid context.handler.key) (changes : List (Change Ref)) :
    (changes.foldl (apply context) state).rows.Valid context.handler.key := by
  induction changes generalizing state with
  | nil => exact valid
  | cons change rest ih => exact ih (apply_valid valid change)

end FlushState

end LiveList
