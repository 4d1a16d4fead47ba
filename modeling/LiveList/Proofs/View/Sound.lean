import LiveList.Proofs.View.Acts
import LiveList.Proofs.View.Cells
import LiveList.Proofs.View.Passes
import LiveList.Proofs.View.Waiting

/-!
Views whose rows and waiting changes are valid. Nothing that a view hears, and nothing that its owner
does, makes it otherwise; and a flush turns the cell of each key by the change that waits for it.
-/

namespace LiveList

variable {Ref : Type}

theorem holder_filter {key : Ref → Nat} {rows : List Ref} (distinct : (rows.map key).Nodup)
    (passes : Ref → Bool) (k : Nat) :
    holder key (rows.filter passes) k = (holder key rows k).filter passes := by
  apply Option.ext
  intro item
  have fewer := distinct.sublist (List.Sublist.map key (List.filter_sublist (p := passes)))
  rw [holder_eq_some fewer, Option.filter_eq_some_iff, holder_eq_some distinct, List.mem_filter]
  exact and_right_comm

namespace ListView

def cell (key : Ref → Nat) (view : ListView Ref) (k : Nat) : Cell Ref where
  known := holder key view.rows.known k
  shown := holder key view.rows.matching k
  told := none

/-- The rows and the waiting changes are valid, and an inactive view has none of either. -/
structure Sound (key : Ref → Nat) (view : ListView Ref) : Prop where
  rows : view.rows.Valid key
  changes : view.changes.Valid key
  silent : view.phase = .inactive → view.rows.known = [] ∧ view.changes = {}

variable {key : Ref → Nat} {handler : Handler Ref} {source : List Ref} {view after : ListView Ref}
  {property : PropertyId} {permit : Permit Ref} {effects : List ViewEffect}

theorem Sound.start : ({} : ListView Ref).Sound key where
  rows := Rows.Valid.start
  changes := Changes.Valid.start
  silent _ := ⟨rfl, rfl⟩

theorem sortedRows_perm (context : FlushContext Ref) (sort : PropertyId × Bool)
    (updated : PropertySet) (rows : Rows Ref) :
    (sortedRows context sort updated rows).matching.Perm rows.matching := by
  unfold sortedRows
  split
  · exact View.stableSort_perm _ _
  · exact .refl _

theorem sortedRows_known (context : FlushContext Ref) (sort : PropertyId × Bool)
    (updated : PropertySet) (rows : Rows Ref) :
    (sortedRows context sort updated rows).known = rows.known := by
  unfold sortedRows
  split <;> rfl

theorem sortedRows_valid {rows : Rows Ref} (valid : rows.Valid key) (context : FlushContext Ref)
    (sort : PropertyId × Bool) (updated : PropertySet) :
    (sortedRows context sort updated rows).Valid key := by
  have perm := sortedRows_perm context sort updated rows
  have known := sortedRows_known context sort updated rows
  refine ⟨?_, ⟨?_, ?_⟩, ?_⟩
  · unfold sortedRows
    split
    · exact ⟨valid.arrivals, valid.early, valid.once, valid.index⟩
    · exact valid.toIndexed
  · rw [(perm.map key).nodup_iff]
    exact valid.distinct
  · intro k
    rw [(perm.map key).mem_iff, ← valid.keys k]
    unfold sortedRows
    split <;> exact Iff.rfl
  · intro item member
    rw [known]
    exact valid.inside item (perm.mem_iff.mp member)

theorem Sound.passStart (sound : view.Sound handler.key) (property : PropertyId) :
    (view.passStart handler property).rows.Valid handler.key :=
  sortedRows_valid sound.rows _ _ _

theorem Sound.passStart_cell (sound : view.Sound handler.key) (property : PropertyId) (k : Nat) :
    (view.passStart handler property).cell handler.key k = view.cell handler.key k := by
  have known := sortedRows_known (view.passContext handler property)
    (property, view.settings.sortAscending) view.changes.batch.updatedProperties view.rows
  have perm := sortedRows_perm (view.passContext handler property)
    (property, view.settings.sortAscending) view.changes.batch.updatedProperties view.rows
  have shown := holder_congr (k := k) sound.rows.distinct (sound.passStart property).distinct
    fun item _ => perm.mem_iff
  simp only [FlushState.cell, cell, Cell.mk.injEq]
  exact ⟨congrArg (holder handler.key · k) known, shown, rfl⟩

theorem Sound.passEnd (sound : view.Sound handler.key) (property : PropertyId) :
    (view.passEnd handler property).rows.Valid handler.key :=
  FlushState.foldl_valid (view.passContext handler property) (sound.passStart property)
    view.changes.batch.changes

/-- A flush turns each cell by the change that waits for its key. -/
theorem Sound.passEnd_cell (sound : view.Sound handler.key) (property : PropertyId) (k : Nat) :
    (view.passEnd handler property).cell handler.key k =
      (view.cell handler.key k).settle (view.passContext handler property).passes
        (view.changes.waiting k) := by
  have distinct := sound.changes.distinct
  rw [← sound.changes.batch_keys] at distinct
  have turned := FlushState.foldl_cell (view.passContext handler property)
    (sound.passStart property) distinct k
  rw [show (view.passContext handler property).handler.key = handler.key from rfl,
    sound.passStart_cell, sound.changes.batch_find] at turned
  exact turned

theorem Sound.hear (sound : view.Sound handler.key) (kind : ChangeKind) (item : Ref)
    (changed : PropertySet) : (view.hear handler kind item changed).Sound handler.key := by
  unfold ListView.hear
  split
  · exact sound
  · rename_i there
    exact ⟨sound.rows, sound.changes.report item kind changed, fun absent => absurd absent there⟩

theorem Sound.flush (sound : view.Sound handler.key) :
    (view.flush handler).view.Sound handler.key := by
  by_cases runs : ∃ property, view.Ready property
  · obtain ⟨property, ready⟩ := runs
    rw [flush_ready handler ready]
    have valid := sound.passEnd property
    refine ⟨⟨⟨valid.arrivals, valid.early, valid.once, valid.index⟩,
      ⟨valid.distinct, valid.keys⟩, valid.inside⟩, Changes.Valid.start, ?_⟩
    exact fun absent => absurd absent ready.there
  · rw [flush_idle handler (not_exists.mp runs)]
    exact sound

theorem refilter_sound (indexed : view.rows.Indexed handler.key)
    (changes : view.changes.Valid handler.key)
    (silent : view.phase = .inactive → view.rows.known = [] ∧ view.changes = {}) :
    (view.refilter handler).Sound handler.key where
  rows := indexed.refilter view.filters.compiled
  changes := changes
  silent := silent

theorem Sound.motion (sound : view.Sound handler.key)
    (motion : Motion handler source permit view after effects) : after.Sound handler.key := by
  cases motion with
  | set update => exact ⟨sound.rows, sound.changes, sound.silent⟩
  | addEmptyFilter => exact ⟨sound.rows, sound.changes, sound.silent⟩
  | filter filters =>
      have filtered : (ListView.refilter handler { view with filters }).Sound handler.key :=
        refilter_sound sound.rows.toIndexed sound.changes sound.silent
      exact ⟨filtered.rows, filtered.changes, filtered.silent⟩
  | activate paused inactive =>
      have taken := sound.rows.toIndexed.insertAll source
      cases paused with
      | true =>
          refine refilter_sound taken sound.changes fun absent => ?_
          cases absent
      | false =>
          have filtered : (ListView.refilter handler { view with
              phase := .active
              rows := view.rows.insertAll handler source }).Sound handler.key := by
            refine refilter_sound taken sound.changes fun absent => ?_
            cases absent
          refine ⟨filtered.rows, filtered.changes, fun absent => ?_⟩
          cases absent
  | pause =>
      unfold ListView.pause
      split
      · refine ⟨sound.rows, sound.changes, fun absent => ?_⟩
        cases absent
      · exact sound
  | unpause paused =>
      refine ⟨⟨⟨sound.rows.arrivals, sound.rows.early, sound.rows.once, sound.rows.index⟩,
        ⟨sound.rows.distinct, sound.rows.keys⟩, sound.rows.inside⟩, sound.changes,
        fun absent => ?_⟩
      cases absent
  | flush => exact sound.flush
  | stop => exact ⟨Rows.Valid.start, Changes.Valid.start, fun _ => ⟨rfl, rfl⟩⟩
  | reload =>
      unfold ListView.reload
      split
      · exact sound
      · rename_i there
        have taken := (Rows.clearItems_indexed handler.key view.rows).insertAll source
        have filtered : (ListView.refilter handler { view with
            changes := {}
            rows := view.rows.clearItems.insertAll handler source }).Sound handler.key :=
          refilter_sound taken Changes.Valid.start fun absent => absurd absent there
        exact ⟨filtered.rows, filtered.changes, filtered.silent⟩

theorem Sound.live (sound : view.Sound key) {occasions : List (Occasion Ref)}
    (keyed : ∀ occasion ∈ occasions, occasion.handler.key = key) :
    (view.live occasions).view.Sound key := by
  refine live_keep (fun handler => handler.key = key) (Sound key) ?_ ?_ sound occasions keyed
  · rintro handler view kind item changed rfl sound
    exact sound.hear kind item changed
  · rintro handler source permit before after effects rfl motion sound
    exact sound.motion motion

/-- A property of a row that the view may be behind with: it changed and was not named, or a change
waits that names it or is more than an update. -/
def Loose (key : Ref → Nat) (unnamed : Ref → PropertyId → Prop) (view : ListView Ref)
    (id : PropertyId) (item : Ref) : Prop :=
  unnamed item id ∨ ∃ change, view.changes.waiting (key item) = some change ∧
    (change.kind = .update → id ∈ change.changed)

theorem Loose.hear {unnamed : Ref → PropertyId → Prop} {id : PropertyId} {row : Ref}
    (loose : view.Loose handler.key unnamed id row) (there : view.phase ≠ .inactive)
    {kind : ChangeKind} {item : Ref} {changed : PropertySet} {fewer : Ref → PropertyId → Prop}
    (named : unnamed row id → fewer row id ∨
      handler.key row = handler.key item ∧ (kind = .update → id ∈ changed))
    (fresh : kind = .add → ∀ change, view.changes.waiting (handler.key item) = some change →
      change.kind ≠ .update) :
    (view.hear handler kind item changed).Loose handler.key fewer id row := by
  have heard : (view.hear handler kind item changed).changes =
      view.changes.report (handler.key item) item kind changed := by
    simp [ListView.hear, there]
  unfold Loose
  rw [heard, Changes.waiting_report]
  by_cases same : handler.key row = handler.key item
  · rw [if_pos same]
    rcases loose with missing | ⟨change, waits, names⟩
    · rcases named missing with still | ⟨_, names⟩
      · exact .inl still
      · exact .inr ⟨_, rfl, Changes.reported_names names fresh⟩
    · rw [← same, waits]
      exact .inr ⟨_, rfl, Changes.reported_keeps names⟩
  · rw [if_neg same]
    rcases loose with missing | waits
    · rcases named missing with still | ⟨here, _⟩
      · exact .inl still
      · exact absurd here same
    · exact .inr waits

/-- What every single update keeps is kept by any number of them, where fewer properties are left that
were not named. -/
theorem hearAll_keep (handler : Handler Ref) {unnamed : Ref → PropertyId → Prop} {changed : PropertySet}
    (holds : ListView Ref → (Ref → PropertyId → Prop) → Prop)
    (kept : ∀ view unnamed item {fewer : Ref → PropertyId → Prop}, holds view unnamed →
      (∀ row id, unnamed row id → fewer row id ∨
        handler.key row = handler.key item ∧ (ChangeKind.update = .update → id ∈ changed)) →
      holds (view.hearUpdated handler item changed) fewer)
    (start : holds view unnamed) (items : List Ref) :
    holds (view.hearAllUpdated handler items changed)
      (fun other id => unnamed other id ∧ ¬ (other ∈ items ∧ id ∈ changed)) := by
  unfold hearAllUpdated
  induction items generalizing view unnamed with
  | nil => simpa using start
  | cons item rest ih =>
      have first : holds (view.hearUpdated handler item changed)
          (fun other id => unnamed other id ∧ ¬ (other = item ∧ id ∈ changed)) := by
        refine kept view unnamed item start fun row id missing => ?_
        by_cases named : row = item ∧ id ∈ changed
        · exact .inr ⟨congrArg _ named.1, fun _ => named.2⟩
        · exact .inl ⟨missing, named⟩
      have both (other : Ref) (id : PropertyId) :
          ((unnamed other id ∧ ¬ (other = item ∧ id ∈ changed)) ∧
            ¬ (other ∈ rest ∧ id ∈ changed)) =
          (unnamed other id ∧ ¬ (other ∈ item :: rest ∧ id ∈ changed)) := by
        rw [List.mem_cons, or_and_right, not_or, and_assoc]
      have later := ih first
      simp only [both] at later
      exact later

end ListView

end LiveList
