import LiveList.Proofs.View.Operations

/-!
A flush key by key. A change looks at, and turns, only the cell of its own key: which item is known,
which row is in the view, and which of its properties are to be told. A batch with at most one change
for each key therefore acts on each cell by itself, whatever the order of the batch.
-/

namespace LiveList

variable {Ref : Type}

def holder (key : Ref → Nat) (rows : List Ref) (k : Nat) : Option Ref :=
  rows.find? fun item => key item == k

section Holder

variable {key : Ref → Nat} {rows others : List Ref} {k : Nat} {item : Ref}

theorem holder_eq_none : holder key rows k = none ↔ k ∉ rows.map key := by
  simp [holder]

theorem holder_key (found : holder key rows k = some item) : key item = k := by
  simpa using List.find?_some found

theorem holder_mem (found : holder key rows k = some item) : item ∈ rows :=
  List.mem_of_find?_eq_some found

theorem holder_eq_some (distinct : (rows.map key).Nodup) :
    holder key rows k = some item ↔ item ∈ rows ∧ key item = k := by
  constructor
  · intro found
    exact ⟨holder_mem found, holder_key found⟩
  · rintro ⟨member, rfl⟩
    induction rows with
    | nil => cases member
    | cons first rest ih =>
        rw [List.map_cons, List.nodup_cons] at distinct
        rcases List.mem_cons.mp member with rfl | later
        · simp [holder]
        · have other : key first ≠ key item := fun same =>
            distinct.1 (same ▸ List.mem_map.mpr ⟨item, later, rfl⟩)
          have skipped : holder key (first :: rest) (key item) = holder key rest (key item) :=
            List.find?_cons_of_neg (by simpa using other)
          rw [skipped]
          exact ih distinct.2 later

theorem holder_congr (distinct : (rows.map key).Nodup) (apart : (others.map key).Nodup)
    (same : ∀ item, key item = k → (item ∈ others ↔ item ∈ rows)) :
    holder key others k = holder key rows k := by
  apply Option.ext
  intro item
  rw [holder_eq_some distinct, holder_eq_some apart]
  constructor
  · rintro ⟨member, keyed⟩
    exact ⟨(same item keyed).mp member, keyed⟩
  · rintro ⟨member, keyed⟩
    exact ⟨(same item keyed).mpr member, keyed⟩

/-- One more row makes a difference to its own key only. -/
theorem holder_cons_congr (distinct : (rows.map key).Nodup) (apart : (others.map key).Nodup)
    (more : others.Perm (item :: rows)) (different : k ≠ key item) :
    holder key others k = holder key rows k := by
  apply holder_congr distinct apart
  intro other keyed
  rw [more.mem_iff, List.mem_cons]
  constructor
  · rintro (rfl | old)
    · exact absurd keyed.symm different
    · exact old
  · exact .inr

theorem holder_without (key : Ref → Nat) (rows : List Ref) (k other : Nat) :
    holder key (without key k rows) other = if other = k then none else holder key rows other := by
  unfold holder without
  rw [List.find?_filter]
  split
  · rename_i same
    subst same
    apply List.find?_eq_none.mpr
    intro item _
    by_cases here : key item = other <;> simp [here]
  · rename_i different
    congr 1
    funext item
    by_cases here : key item = other
    · simp [here, different]
    · simp [here]

end Holder

/-- What a flush has for one key: the item that is known, the row in the view, and the properties
of the row that are to be told. -/
structure Cell (Ref : Type) where
  known : Option Ref
  shown : Option Ref
  told : Option PropertySet

def Cell.turn (passes : Ref → Bool) (change : Change Ref) (cell : Cell Ref) : Cell Ref :=
  let kept := if passes change.item then some change.item else none
  match change.kind, cell.known with
  | .add, none => { cell with known := some change.item, shown := kept }
  | .add, some _ =>
      if change.replaces then { cell with known := some change.item, shown := kept } else cell
  | .remove, _ => { cell with known := none, shown := none }
  | .update, none => cell
  | .update, some _ =>
      { known := some change.item
        shown := kept.bind fun item => cell.shown.or (some item)
        told :=
          if passes change.item ∧ cell.shown.isSome then
            some (PropertySet.union (cell.told.getD []) change.changed)
          else cell.told }

def Cell.settle (passes : Ref → Bool) (waiting : Option (Change Ref)) (cell : Cell Ref) : Cell Ref :=
  match waiting with
  | none => cell
  | some change => cell.turn passes change

namespace Cell

variable {passes : Ref → Bool} {change : Change Ref} {cell : Cell Ref}

theorem turn_add (add : change.kind = .add) (free : change.replaces = false → cell.known = none) :
    cell.turn passes change = { cell with
      known := some change.item
      shown := if passes change.item then some change.item else none } := by
  unfold turn
  rw [add]
  cases known : cell.known with
  | none => rfl
  | some old =>
      cases replaces : change.replaces with
      | true => rfl
      | false =>
          rw [free replaces] at known
          cases known

theorem turn_remove (remove : change.kind = .remove) :
    cell.turn passes change = { cell with known := none, shown := none } := by
  unfold turn
  rw [remove]

theorem turn_update {old : Ref} (update : change.kind = .update) (known : cell.known = some old) :
    cell.turn passes change =
      { known := some change.item
        shown := if passes change.item then cell.shown.or (some change.item) else none
        told :=
          if passes change.item ∧ cell.shown.isSome then
            some (PropertySet.union (cell.told.getD []) change.changed)
          else cell.told } := by
  unfold turn
  rw [update, known]
  by_cases keeps : passes change.item = true <;> simp [keeps]

end Cell

namespace FlushState

variable {context : FlushContext Ref} {state after : FlushState Ref} {key : Ref → Nat}

def cell (key : Ref → Nat) (state : FlushState Ref) (k : Nat) : Cell Ref where
  known := holder key state.rows.known k
  shown := holder key state.rows.matching k
  told := Assoc.get? state.updated k

theorem holder_shown_none (valid : state.rows.Valid key) {k : Nat}
    (unknown : holder key state.rows.known k = none) : holder key state.rows.matching k = none := by
  rw [holder_eq_none] at unknown ⊢
  intro member
  obtain ⟨item, shown, rfl⟩ := List.mem_map.mp member
  exact unknown (valid.inside item shown)

theorem Leaves.cell {known : Ref → Prop} {matching : List Ref}
    {updated : List (Nat × PropertySet)} (leaves : Leaves key after known matching updated)
    {k : Nat} (item : Option Ref) (held : ∀ other, item = some other ↔ known other ∧ key other = k) :
    after.cell key k = ⟨item, holder key matching k, Assoc.get? updated k⟩ := by
  have same : holder key after.rows.known k = item := by
    apply Option.ext
    intro other
    rw [holder_eq_some leaves.valid.known_distinct, leaves.known]
    exact (held other).symm
  simp only [FlushState.cell, same, leaves.matching, leaves.updated]

theorem holder_place (context : FlushContext Ref) {item : Ref} {rows : List Ref}
    (distinct : (rows.map key).Nodup)
    (absent : key item ∉ rows.map key) (k : Nat) :
    holder key (context.place item rows) k = if k = key item then some item else holder key rows k := by
  have placed := context.place_perm item rows
  have apart : ((context.place item rows).map key).Nodup := by
    rw [(placed.map key).nodup_iff, List.map_cons, List.nodup_cons]
    exact ⟨absent, distinct⟩
  split
  · rename_i here
    exact (holder_eq_some apart).mpr ⟨placed.mem_iff.mpr List.mem_cons_self, here.symm⟩
  · rename_i elsewhere
    exact holder_cons_congr distinct apart placed elsewhere

theorem applyRemove_cell (valid : state.rows.Valid context.handler.key) (item : Ref) (k : Nat) :
    (state.applyRemove context item).cell context.handler.key k =
      if k = context.handler.key item then
        { state.cell context.handler.key k with known := none, shown := none }
      else state.cell context.handler.key k := by
  have leaves := applyRemove_leaves valid item
  by_cases here : k = context.handler.key item
  · rw [if_pos here, leaves.cell none ?_, holder_without, if_pos here]
    · rfl
    · intro other
      simp only [reduceCtorEq, false_iff]
      rintro ⟨⟨_, different⟩, same⟩
      exact different (same.trans here)
  · rw [if_neg here, leaves.cell (holder context.handler.key state.rows.known k) ?_,
      holder_without, if_neg here]
    · rfl
    · intro other
      rw [holder_eq_some valid.known_distinct]
      constructor
      · rintro ⟨member, same⟩
        exact ⟨⟨member, fun there => here (same.symm.trans there)⟩, same⟩
      · rintro ⟨⟨member, _⟩, same⟩
        exact ⟨member, same⟩

theorem applyAdd_cell (valid : state.rows.Valid context.handler.key) (item : Ref) (k : Nat) :
    (state.applyAdd context item).cell context.handler.key k =
      if k = context.handler.key item ∧ (state.cell context.handler.key k).known = none then
        { state.cell context.handler.key k with
          known := some item
          shown := if context.passes item then some item else none }
      else state.cell context.handler.key k := by
  by_cases present : context.handler.key item ∈ state.rows.known.map context.handler.key
  · rw [applyAdd_present valid present, if_neg]
    rintro ⟨rfl, unknown⟩
    exact holder_eq_none.mp unknown present
  · have leaves := applyAdd_absent valid present
    have unknown := holder_eq_none.mpr present
    have hidden := holder_shown_none valid unknown
    by_cases here : k = context.handler.key item
    · subst here
      rw [if_pos ⟨rfl, unknown⟩, leaves.cell (some item) ?_]
      · split
        · rw [holder_place context valid.distinct (holder_eq_none.mp hidden), if_pos rfl]
          rfl
        · rw [hidden]
          rfl
      · intro other
        constructor
        · rintro ⟨⟩
          exact ⟨.inr rfl, rfl⟩
        · rintro ⟨old | rfl, same⟩
          · exact absurd (List.mem_map.mpr ⟨other, old, same⟩) present
          · rfl
    · rw [if_neg (fun both => here both.1),
        leaves.cell (holder context.handler.key state.rows.known k) ?_]
      · split
        · rw [holder_place context valid.distinct (holder_eq_none.mp hidden), if_neg here]
          rfl
        · rfl
      · intro other
        rw [holder_eq_some valid.known_distinct]
        constructor
        · rintro ⟨member, same⟩
          exact ⟨.inl member, same⟩
        · rintro ⟨old | rfl, same⟩
          · exact ⟨old, same⟩
          · exact absurd same.symm here

theorem applyUpdate_cell (valid : state.rows.Valid context.handler.key) (item : Ref)
    (changed : PropertySet) (k : Nat) :
    (state.applyUpdate context item changed).cell context.handler.key k =
      if k = context.handler.key item ∧ (state.cell context.handler.key k).known ≠ none then
        { known := some item
          shown := (if context.passes item then some item else none).bind fun item =>
            (state.cell context.handler.key k).shown.or (some item)
          told :=
            if context.passes item ∧ (state.cell context.handler.key k).shown.isSome then
              some (PropertySet.union ((state.cell context.handler.key k).told.getD []) changed)
            else (state.cell context.handler.key k).told }
      else state.cell context.handler.key k := by
  by_cases present : context.handler.key item ∈ state.rows.known.map context.handler.key
  · have leaves := applyUpdate_present valid changed present
    dsimp only at leaves
    by_cases here : k = context.handler.key item
    · subst here
      have known : (state.cell context.handler.key (context.handler.key item)).known ≠ none :=
        fun unknown => holder_eq_none.mp unknown present
      have shown : (state.cell context.handler.key (context.handler.key item)).shown.isSome ↔
          context.handler.key item ∈ state.rows.matching.map context.handler.key := by
        rw [Option.isSome_iff_ne_none, ne_eq, cell, holder_eq_none]
        exact Decidable.not_not
      rw [if_pos ⟨rfl, known⟩, leaves.cell (some item) ?_]
      · by_cases passes : context.passes item = true
        · by_cases inside : context.handler.key item ∈ state.rows.matching.map context.handler.key
          · obtain ⟨row, held⟩ := Option.isSome_iff_exists.mp (shown.mpr inside)
            have there : holder context.handler.key state.rows.matching
                (context.handler.key item) = some row := held
            simp [passes, inside, there, retold, Assoc.get?_set, cell]
          · have hidden := holder_eq_none.mpr inside
            have placed := holder_place context valid.distinct inside (context.handler.key item)
            simp [passes, inside, hidden, placed, cell]
        · simp [passes, holder_without, cell]
      · intro other
        constructor
        · rintro ⟨⟩
          exact ⟨.inl rfl, rfl⟩
        · rintro ⟨rfl | old, same⟩
          · rfl
          · exact absurd same old.2
    · rw [if_neg (fun both => here both.1),
        leaves.cell (holder context.handler.key state.rows.known k) ?_]
      · have other : holder context.handler.key
            (if context.passes item then
              if context.handler.key item ∈ state.rows.matching.map context.handler.key then
                state.rows.matching
              else context.place item state.rows.matching
            else without context.handler.key (context.handler.key item) state.rows.matching) k =
            holder context.handler.key state.rows.matching k := by
          split
          · split
            · rfl
            · rename_i outside
              rw [holder_place context valid.distinct outside, if_neg here]
          · rw [holder_without, if_neg here]
        rw [other]
        split <;> simp [cell, retold, Assoc.get?_set, here]
      · intro other
        rw [holder_eq_some valid.known_distinct]
        constructor
        · rintro ⟨member, same⟩
          exact ⟨.inr ⟨member, fun there => here (same.symm.trans there)⟩, same⟩
        · rintro ⟨rfl | old, same⟩
          · exact absurd same.symm here
          · exact ⟨old.1, same⟩
  · rw [applyUpdate_absent valid changed present, if_neg]
    rintro ⟨rfl, known⟩
    exact known (holder_eq_none.mpr present)

theorem apply_cell (valid : state.rows.Valid context.handler.key) (change : Change Ref) (k : Nat) :
    (state.apply context change).cell context.handler.key k =
      if k = context.handler.key change.item then
        (state.cell context.handler.key k).turn context.passes change
      else state.cell context.handler.key k := by
  unfold apply Cell.turn
  cases change.kind with
  | add =>
      dsimp only
      by_cases replaces : change.replaces = true
      · have removed := (applyRemove_leaves valid change.item).valid
        rw [if_pos replaces, applyAdd_cell removed, applyRemove_cell valid]
        by_cases here : k = context.handler.key change.item
        · simp only [here, replaces, ↓reduceIte, and_self]
          cases (state.cell context.handler.key (context.handler.key change.item)).known <;> rfl
        · simp [here]
      · rw [if_neg replaces, applyAdd_cell valid]
        by_cases here : k = context.handler.key change.item
        · simp only [here, replaces, ↓reduceIte, true_and]
          cases known : (state.cell context.handler.key (context.handler.key change.item)).known with
          | none => simp
          | some item => simp
        · simp [here]
  | remove => exact applyRemove_cell valid change.item k
  | update =>
      dsimp only
      rw [applyUpdate_cell valid]
      by_cases here : k = context.handler.key change.item
      · simp only [here, ↓reduceIte, true_and]
        cases known : (state.cell context.handler.key (context.handler.key change.item)).known with
        | none => simp
        | some item => simp
      · simp [here]

/-- Changes with different keys turn each cell by itself. -/
theorem foldl_cell (context : FlushContext Ref) {state : FlushState Ref}
    (valid : state.rows.Valid context.handler.key) {changes : List (Change Ref)}
    (distinct : (changes.map fun change => context.handler.key change.item).Nodup) (k : Nat) :
    (changes.foldl (apply context) state).cell context.handler.key k =
      (state.cell context.handler.key k).settle context.passes
        (changes.find? fun change => context.handler.key change.item == k) := by
  induction changes generalizing state with
  | nil => rfl
  | cons change rest ih =>
      rw [List.map_cons, List.nodup_cons] at distinct
      rw [List.foldl_cons, ih (apply_valid valid change) distinct.2, apply_cell valid]
      by_cases here : context.handler.key change.item = k
      · have alone : (rest.find? fun other => context.handler.key other.item == k) = none := by
          apply List.find?_eq_none.mpr
          intro other member same
          have keyed : context.handler.key other.item = k := by simpa using same
          exact distinct.1 (List.mem_map.mpr ⟨other, member, keyed.trans here.symm⟩)
        rw [alone, List.find?_cons_of_pos (by simpa using here), if_pos here.symm]
        rfl
      · rw [List.find?_cons_of_neg (by simpa using here), if_neg (Ne.symm here)]

end FlushState

end LiveList
