import LiveList.Proofs.Assoc
import LiveList.Property
import LiveList.View.Changes

/-!
The changes that wait for a flush: one at most for each key, in the order of the first report, and a
report touches only the change of its key.
-/

namespace LiveList

variable {Ref : Type}

namespace Changes

/-- The keys in order are those with a waiting change, and a change is that of its item. -/
structure Valid (key : Ref → Nat) (changes : Changes Ref) : Prop where
  order : changes.order = Assoc.keys changes.tasks
  distinct : changes.order.Nodup
  keyed : ∀ entry ∈ changes.tasks, key entry.2.item = entry.1

def waiting (changes : Changes Ref) (k : Nat) : Option (Change Ref) :=
  Assoc.get? changes.tasks k

variable {key : Ref → Nat} {changes : Changes Ref} {item : Ref} {kind : ChangeKind}
  {changed : PropertySet} {k : Nat} {change : Change Ref}

theorem Valid.start : ({} : Changes Ref).Valid key where
  order := rfl
  distinct := List.nodup_nil
  keyed := by simp

def reported (before : Option (Change Ref)) (item : Ref) (kind : ChangeKind)
    (changed : PropertySet) : Change Ref :=
  match before with
  | none => ⟨kind, item, changed, false⟩
  | some waiting => waiting.merge item kind changed

theorem reported_item (before : Option (Change Ref)) :
    (reported before item kind changed).item = item := by
  unfold reported Change.merge
  split
  · rfl
  · split <;> rfl

/-- What an update that waits names is still named after a report, if an update still waits. -/
theorem reported_keeps {id : PropertyId} (names : change.kind = .update → id ∈ change.changed)
    (update : (reported (some change) item kind changed).kind = .update) :
    id ∈ (reported (some change) item kind changed).changed := by
  unfold reported Change.merge at update ⊢
  cases waits : change.kind <;> cases kind <;> simp_all [PropertySet.mem_union]

/-- What an update names is named by what waits after it, if that is an update. -/
theorem reported_names {id : PropertyId} {before : Option (Change Ref)}
    (names : kind = .update → id ∈ changed)
    (fresh : kind = .add → ∀ change, before = some change → change.kind ≠ .update)
    (update : (reported before item kind changed).kind = .update) :
    id ∈ (reported before item kind changed).changed := by
  cases before with
  | none => exact names update
  | some change =>
      unfold reported Change.merge at update ⊢
      cases waits : change.kind <;> cases kind <;> simp_all [PropertySet.mem_union]

theorem report_tasks (changes : Changes Ref) (k : Nat) :
    (changes.report k item kind changed).tasks =
      Assoc.set k (reported (changes.waiting k) item kind changed) changes.tasks := by
  unfold report reported waiting
  cases Assoc.get? changes.tasks k <;> rfl

theorem waiting_report (changes : Changes Ref) (k other : Nat) :
    (changes.report k item kind changed).waiting other =
      if other = k then some (reported (changes.waiting k) item kind changed)
      else changes.waiting other := by
  unfold waiting
  rw [report_tasks, Assoc.get?_set]
  rfl

theorem Valid.report (valid : changes.Valid key) (item : Ref) (kind : ChangeKind)
    (changed : PropertySet) : (changes.report (key item) item kind changed).Valid key := by
  have distinct : (Assoc.keys changes.tasks).Nodup := valid.order ▸ valid.distinct
  have order : (changes.report (key item) item kind changed).order =
      Assoc.keys (changes.report (key item) item kind changed).tasks := by
    rw [report_tasks]
    unfold Changes.report
    split
    · rename_i absent
      rw [Assoc.set_absent (reported _ item kind changed) (Assoc.get?_eq_none.mp absent)]
      simp [Assoc.keys, valid.order]
    · rename_i before found
      have present : key item ∈ Assoc.keys changes.tasks :=
        Assoc.mem_keys.mpr ⟨before, Assoc.mem_of_get? found⟩
      rw [Assoc.keys_set_present _ present]
      exact valid.order
  refine ⟨order, ?_, ?_⟩
  · rw [order, report_tasks]
    exact Assoc.nodup_set _ _ distinct
  · intro entry member
    rw [report_tasks, Assoc.mem_set distinct] at member
    rcases member with rfl | old
    · rw [reported_item]
    · exact valid.keyed entry old.1

theorem Valid.waiting_keyed (valid : changes.Valid key) (waits : changes.waiting k = some change) :
    key change.item = k :=
  valid.keyed _ (Assoc.mem_of_get? waits)

theorem Valid.isEmpty_iff (valid : changes.Valid key) :
    changes.isEmpty = true ↔ ∀ k, changes.waiting k = none := by
  rw [isEmpty, List.isEmpty_iff, valid.order]
  constructor
  · intro empty k
    apply Assoc.get?_eq_none.mpr
    simp [empty]
  · intro none
    apply List.eq_nil_iff_forall_not_mem.mpr
    intro k
    exact Assoc.get?_eq_none.mp (none k)

theorem Valid.eq_empty (valid : changes.Valid key) (empty : changes.isEmpty = true) :
    changes = {} := by
  obtain ⟨order, tasks⟩ := changes
  obtain rfl : order = [] := List.isEmpty_iff.mp empty
  obtain rfl : tasks = [] := List.map_eq_nil_iff.mp valid.order.symm
  rfl

theorem Valid.batch_changes (valid : changes.Valid key) :
    changes.batch.changes = changes.tasks.map (·.2) := by
  have distinct : (Assoc.keys changes.tasks).Nodup := valid.order ▸ valid.distinct
  -- The keys in order are those of the tasks, and looking one up gives back its own task.
  have each (entries : List (Nat × Change Ref)) (inside : ∀ entry ∈ entries, entry ∈ changes.tasks) :
      (Assoc.keys entries).filterMap (Assoc.get? changes.tasks) = entries.map (·.2) := by
    induction entries with
    | nil => rfl
    | cons entry rest ih =>
        have first := (Assoc.get?_iff_mem distinct).mpr (inside entry List.mem_cons_self)
        have later := ih fun other member => inside other (List.mem_cons_of_mem entry member)
        simp only [Assoc.keys] at later ⊢
        rw [List.map_cons, List.filterMap_cons_some first, later, List.map_cons]
  show changes.order.filterMap (Assoc.get? changes.tasks) = _
  rw [valid.order]
  exact each changes.tasks fun _ member => member

theorem Valid.batch_keys (valid : changes.Valid key) :
    (changes.batch.changes.map fun change => key change.item) = changes.order := by
  rw [valid.batch_changes, valid.order, List.map_map]
  apply List.map_congr_left
  intro entry member
  exact valid.keyed entry member

theorem Valid.mem_batch (valid : changes.Valid key) :
    change ∈ changes.batch.changes ↔ changes.waiting (key change.item) = some change := by
  have distinct : (Assoc.keys changes.tasks).Nodup := valid.order ▸ valid.distinct
  rw [valid.batch_changes, waiting, Assoc.get?_iff_mem distinct, List.mem_map]
  constructor
  · rintro ⟨entry, member, rfl⟩
    rw [valid.keyed entry member]
    exact member
  · intro member
    exact ⟨_, member, rfl⟩

theorem Valid.batch_find (valid : changes.Valid key) (k : Nat) :
    (changes.batch.changes.find? fun change => key change.item == k) = changes.waiting k := by
  cases waits : changes.waiting k with
  | none =>
      apply List.find?_eq_none.mpr
      intro change member same
      have keyed : key change.item = k := by simpa using same
      rw [valid.mem_batch, keyed, waits] at member
      cases member
  | some change =>
      have keyed := valid.waiting_keyed waits
      have member := valid.mem_batch.mpr (keyed.symm ▸ waits)
      cases found : changes.batch.changes.find? fun change => key change.item == k with
      | none =>
          have different := List.find?_eq_none.mp found change member
          simp [keyed] at different
      | some other =>
          have same : key other.item = k := by simpa using List.find?_some found
          have there := valid.mem_batch.mp (List.mem_of_find?_eq_some found)
          rw [same, waits] at there
          exact there.symm

theorem mem_updatedProperties (changes : Changes Ref) (id : PropertyId) :
    id ∈ changes.batch.updatedProperties ↔
      ∃ change ∈ changes.batch.changes, change.kind = .update ∧ id ∈ change.changed := by
  -- The set that is built up names what it named before, and what updates among the rest name.
  have fold (found : List (Change Ref)) (named : PropertySet) :
      id ∈ found.foldl (fun set change =>
        if change.kind = .update then PropertySet.union set change.changed else set) named ↔
        id ∈ named ∨ ∃ change ∈ found, change.kind = .update ∧ id ∈ change.changed := by
    induction found generalizing named with
    | nil => simp
    | cons change rest ih =>
        rw [List.foldl_cons, ih]
        by_cases update : change.kind = .update
        · simp [update, PropertySet.mem_union, or_assoc]
        · simp [update]
  have whole := fold changes.batch.changes []
  simp only [List.not_mem_nil, false_or] at whole
  exact whole

end Changes

end LiveList
