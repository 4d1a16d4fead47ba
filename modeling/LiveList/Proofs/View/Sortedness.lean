import LiveList.Proofs.View.Placement
import LiveList.Proofs.View.Tracking

/-!
The order of the rows in a view. Between flushes rows may stand out of order: those of which the
property that they are sorted by changed, and those that wait to be taken out. The others are in
order. A flush sorts the rows if it knows that some of the first kind stay; but what becomes of a
row that waits to be taken out is forgotten, so it may still mislead the search for a place.
-/

namespace LiveList

variable {Ref : Type}

namespace ListView

/-- The rows are in order up to loose ones, by the order that is set unless something is marked. -/
structure Ordered (handler : Handler Ref) (unnamed : Ref → PropertyId → Prop)
    (view : ListView Ref) : Prop where
  sorted : view.phase ≠ .inactive → view.rows.unsorted = false → ∀ id ascending,
    view.rows.sortedBy = some (id, ascending) → view.rows.matching.Pairwise fun first later =>
      ¬ view.Loose handler.key unnamed id first → ¬ view.Loose handler.key unnamed id later →
        handler.compare id ascending first later ≠ .gt
  current : view.settings.changed = false → view.rows.unsorted = false → ∀ id,
    view.settings.sortProperty = some id →
      view.rows.sortedBy = some (id, view.settings.sortAscending)

/-- A flush sorts all rows anew: an update names the property, the order was changed, or the rows
were filtered anew. -/
def Resorts (view : ListView Ref) (property : PropertyId) : Prop :=
  property ∈ view.changes.batch.updatedProperties ∨
    view.rows.sortedBy ≠ some (property, view.settings.sortAscending) ∨ view.rows.unsorted = true

variable {handler : Handler Ref} {listed : List Ref} {heard : Ref → Prop}
  {unnamed : Ref → PropertyId → Prop} {view after : ListView Ref} {permit : Permit Ref}
  {effects : List ViewEffect} {property : PropertyId}

theorem passStart_sorts (resorts : view.Resorts property) :
    (view.passStart handler property).rows.matching =
        View.stableSort (handler.compare property view.settings.sortAscending)
          view.rows.matching ∧
      (view.passStart handler property).rows.sortedBy =
        some (property, view.settings.sortAscending) := by
  have sorts : (view.changes.batch.updatedProperties.contains property ||
      view.rows.sortedBy != some (property, view.settings.sortAscending) ||
      view.rows.unsorted) = true := by
    simp only [Bool.or_eq_true, List.contains_iff_mem, bne_iff_ne, or_assoc]
    exact resorts
  simp only [passStart, sortedRows, sorts, ↓reduceIte]
  exact ⟨rfl, trivial⟩

theorem passStart_keeps (still : ¬ view.Resorts property) :
    (view.passStart handler property).rows = view.rows := by
  have keeps : ¬ (view.changes.batch.updatedProperties.contains property ||
      view.rows.sortedBy != some (property, view.settings.sortAscending) ||
      view.rows.unsorted) = true := by
    simp only [Bool.or_eq_true, List.contains_iff_mem, bne_iff_ne, or_assoc]
    exact still
  unfold passStart sortedRows
  exact if_neg keeps

theorem passed_sortedBy : (view.passed handler property).rows.sortedBy =
    some (property, view.settings.sortAscending) := by
  have kept : (view.passStart handler property).rows.Kept (view.passEnd handler property).rows :=
    FlushState.foldl_kept _ _ _
  show (view.passEnd handler property).rows.sortedBy = _
  rw [kept.sortedBy]
  by_cases resorts : view.Resorts property
  · exact (passStart_sorts resorts).2
  · rw [passStart_keeps resorts]
    simp only [Resorts, not_or, ne_eq, Decidable.not_not] at resorts
    exact resorts.2.1

def Leaving (key : Ref → Nat) (view : ListView Ref) (item : Ref) : Prop :=
  ∃ change, view.changes.waiting (key item) = some change ∧
    (change.kind = .remove ∨ change.kind = .add ∧ change.replaces = true)

/-- A row that does not wait to be taken out is an item of the source. It is in its place if nothing
that was named and nothing that was not calls for sorting. -/
theorem not_loose (tracks : view.Tracks handler listed heard) (there : view.phase ≠ .inactive)
    (named : ∀ item ∈ listed, ∀ id, ¬ unnamed item id) {item : Ref}
    (member : item ∈ view.rows.matching) (remains : ¬ view.Leaving handler.key item)
    (still : property ∉ view.changes.batch.updatedProperties) :
    ¬ view.Loose handler.key unnamed property item := by
  have valid := tracks.sound.changes
  obtain ⟨fits, inside, _⟩ := tracks.agrees there (handler.key item)
  have knows := inside item ((holder_eq_some tracks.sound.rows.distinct).mpr ⟨member, rfl⟩)
  have lists : holder handler.key listed (handler.key item) = some item ∧
      ∀ change, view.changes.waiting (handler.key item) = some change → change.kind = .update := by
    cases waits : view.changes.waiting (handler.key item) with
    | none =>
        rw [waits] at fits
        refine ⟨fits.symm.trans knows, ?_⟩
        rintro change ⟨⟩
    | some change =>
        rw [waits] at fits
        unfold Fits at fits
        cases kind : change.kind with
        | add =>
            simp only [kind] at fits
            cases replaces : change.replaces with
            | true => exact absurd ⟨change, waits, .inr ⟨kind, replaces⟩⟩ remains
            | false =>
                rw [fits.2 replaces] at knows
                cases knows
        | remove => exact absurd ⟨change, waits, .inl kind⟩ remains
        | update =>
            simp only [kind] at fits
            refine ⟨fits.1.trans (fits.2.symm.trans knows), ?_⟩
            rintro other ⟨⟩
            exact kind
  rintro (missing | ⟨change, waits, names⟩)
  · exact named item (holder_mem lists.1) property missing
  · have update := lists.2 change waits
    have keyed := valid.waiting_keyed waits
    refine still ((view.changes.mem_updatedProperties property).mpr ⟨change, ?_, update, names update⟩)
    exact valid.mem_batch.mpr (keyed.symm ▸ waits)

/-- Every change that waits puts each new row in order among the rows that stay. -/
def Placed (handler : Handler Ref) (view : ListView Ref) (property : PropertyId) : Prop :=
  FlushState.Placed (view.passContext handler property) (view.passStart handler property)
    view.changes.batch.changes

section Flush

variable (tracks : view.Tracks handler listed heard)
  (named : ∀ item ∈ listed, ∀ id, ¬ unnamed item id)
  (ordered : view.Ordered handler unnamed) (ready : view.Ready property)
  (ranked : View.Ranked (handler.compare property view.settings.sortAscending)
    fun item => item ∈ view.rows.matching ∨ item ∈ listed)

include tracks ordered named in
theorem remaining_sorted (there : view.phase ≠ .inactive) (still : ¬ view.Resorts property)
    {rows : List Ref}
    (fewer : rows.Sublist view.rows.matching)
    (remain : ∀ item ∈ rows, ¬ view.Leaving handler.key item) :
    View.Sorted (handler.compare property view.settings.sortAscending) rows := by
  simp only [Resorts, not_or, ne_eq, Decidable.not_not, Bool.not_eq_true] at still
  have pairs := (ordered.sorted there still.2.2 _ _ still.2.1).sublist fewer
  refine List.Pairwise.imp_of_mem ?_ pairs
  intro first later left right apart
  exact apart
    (not_loose tracks there named (fewer.subset left) (remain first left) still.1)
    (not_loose tracks there named (fewer.subset right) (remain later right) still.1)

include tracks ordered ready named ranked in
theorem staying_sorted :
    View.Sorted (handler.compare property view.settings.sortAscending)
      ((view.passStart handler property).rows.matching.filter
        (stays handler.key (view.passContext handler property).passes
          view.changes.batch.changes)) := by
  have there := ready.there
  -- What is loose is either gone after the batch, or was named by an update, so that all rows are sorted.
  by_cases resorts : view.Resorts property
  · rw [(passStart_sorts resorts).1]
    exact (View.stableSort_sorted ranked fun item member => .inl member).sublist List.filter_sublist
  · rw [passStart_keeps resorts]
    refine remaining_sorted tracks named ordered there resorts List.filter_sublist ?_
    rintro item member ⟨change, waits, leaving⟩
    have keyed := tracks.sound.changes.waiting_keyed waits
    have inBatch := tracks.sound.changes.mem_batch.mpr (keyed.symm ▸ waits)
    have stay := List.all_eq_true.mp (List.mem_filter.mp member).2 change inBatch
    rcases leaving with remove | ⟨add, replaces⟩
    · simp [Change.leaves, remove, keyed] at stay
    · simp [Change.leaves, add, replaces, keyed] at stay

include tracks ordered ready named ranked in
/-- The rows are in order after a flush exactly if every new row was put in order among those that
stay. -/
theorem passed_sorted_iff :
    View.Sorted (handler.compare property view.settings.sortAscending)
      (view.passed handler property).rows.matching ↔ view.Placed handler property := by
  have distinct := tracks.sound.changes.distinct
  rw [← tracks.sound.changes.batch_keys] at distinct
  exact FlushState.foldl_sorted_iff (view.passContext handler property)
    (tracks.sound.passStart property) distinct
    (staying_sorted tracks named ordered ready ranked)

include tracks ordered ready named ranked in
/-- New rows are put in order if the flush sorts all rows, if all rows are in order as they stand, or
if none of them waits to be taken out. -/
theorem placed_of_order
    (clear : view.Resorts property ∨
      View.Sorted (handler.compare property view.settings.sortAscending) view.rows.matching ∨
      ∀ item ∈ view.rows.matching, ¬ view.Leaving handler.key item) :
    view.Placed handler property := by
  have there := ready.there
  have perm := sortedRows_perm (view.passContext handler property)
    (property, view.settings.sortAscending) view.changes.batch.updatedProperties view.rows
  have sorted : View.Sorted (handler.compare property view.settings.sortAscending)
      (view.passStart handler property).rows.matching := by
    by_cases resorts : view.Resorts property
    · rw [(passStart_sorts resorts).1]
      exact View.stableSort_sorted ranked fun item member => .inl member
    · rw [passStart_keeps resorts]
      rcases clear with sorts | sorted | remain
      · exact absurd sorts resorts
      · exact sorted
      · exact remaining_sorted tracks named ordered there resorts (List.Sublist.refl _) remain
  refine FlushState.placed_of_sorted ranked (tracks.sound.passStart property)
    (fun item member => .inl (perm.mem_iff.mp member)) (fun change member kind => .inr ?_) sorted
  -- What the batch puts in is listed by the source, and there the order is consistent.
  have waits := tracks.sound.changes.mem_batch.mp member
  have fits := (tracks.agrees there (handler.key change.item)).fits
  rw [waits] at fits
  unfold Fits at fits
  cases kept : change.kind with
  | add =>
      simp only [kept] at fits
      exact holder_mem fits.1
  | remove => exact absurd kept kind
  | update =>
      simp only [kept] at fits
      exact holder_mem fits.1

include tracks ordered named in
theorem quiet_sorted (there : view.phase ≠ .inactive) (quiet : view.hasNews = false)
    (set : view.settings.sortProperty = some property) :
    View.Sorted (handler.compare property view.settings.sortAscending) view.rows.matching := by
  simp only [hasNews, Bool.or_eq_false_iff, Bool.not_eq_eq_eq_not, Bool.not_false] at quiet
  have none := tracks.sound.changes.isEmpty_iff.mp quiet.1.1
  refine remaining_sorted tracks named ordered there ?_ (List.Sublist.refl _) ?_
  · rintro (names | other | unsorted)
    · obtain ⟨change, member, _⟩ := (view.changes.mem_updatedProperties property).mp names
      have waits := tracks.sound.changes.mem_batch.mp member
      rw [none] at waits
      cases waits
    · exact other (ordered.current quiet.1.2 quiet.2 property set)
    · rw [quiet.2] at unsorted
      cases unsorted
  · rintro item _ ⟨change, waits, _⟩
    rw [none] at waits
    cases waits

end Flush

theorem Ordered.start : ({} : ListView Ref).Ordered handler unnamed where
  sorted absent := absurd rfl absent
  current := by
    rintro _ _ id ⟨⟩

theorem Ordered.loosen (ordered : view.Ordered handler unnamed) {reading : Handler Ref}
    {missing : Ref → PropertyId → Prop} (phase : after.phase = view.phase)
    (rows : after.rows = view.rows) (settings : after.settings = view.settings)
    (looser : view.phase ≠ .inactive → ∀ id row, view.Loose handler.key unnamed id row →
      after.Loose reading.key missing id row)
    (same : ∀ id ascending first later, ¬ after.Loose reading.key missing id first →
      ¬ after.Loose reading.key missing id later →
        reading.compare id ascending first later = handler.compare id ascending first later) :
    after.Ordered reading missing where
  sorted there sorted id ascending sorting := by
    rw [phase] at there
    rw [rows] at sorted sorting ⊢
    refine (ordered.sorted there sorted id ascending sorting).imp ?_
    intro first later apart left right
    rw [same id ascending first later left right]
    exact apart (fun loose => left (looser there id first loose))
      fun loose => right (looser there id later loose)
  current := by
    rw [rows, settings]
    exact ordered.current

theorem Ordered.hear (ordered : view.Ordered handler unnamed) {kind : ChangeKind} {item : Ref}
    {changed : PropertySet} {fewer : Ref → PropertyId → Prop}
    (named : ∀ row id, unnamed row id → fewer row id ∨
      handler.key row = handler.key item ∧ (kind = .update → id ∈ changed))
    (fresh : view.phase ≠ .inactive → kind = .add → ∀ change,
      view.changes.waiting (handler.key item) = some change → change.kind ≠ .update) :
    (view.hear handler kind item changed).Ordered handler fewer := by
  refine ordered.loosen ?_ ?_ ?_ (fun there id row loose => ?_) fun _ _ _ _ _ _ => rfl
  · unfold ListView.hear
    split <;> rfl
  · unfold ListView.hear
    split <;> rfl
  · unfold ListView.hear
    split <;> rfl
  · exact loose.hear there (named row id) (fresh there)

theorem Ordered.hearAll (ordered : view.Ordered handler unnamed) (items : List Ref)
    (changed : PropertySet) :
    (view.hearAllUpdated handler items changed).Ordered handler
      (fun other id => unnamed other id ∧ ¬ (other ∈ items ∧ id ∈ changed)) := by
  refine hearAll_keep handler (fun view unnamed => view.Ordered handler unnamed) ?_ ordered items
  intro view unnamed item fewer ordered named
  exact ordered.hear named fun _ => by
    rintro ⟨⟩

theorem Ordered.motion (ordered : view.Ordered handler unnamed)
    (tracks : view.Tracks handler listed heard)
    (allowed : ∀ before, permit.flush before → ∀ property, before.Ready property →
      (∀ item ∈ listed, ∀ id, ¬ unnamed item id) ∧
        View.Ranked (handler.compare property before.settings.sortAscending)
          (fun item => item ∈ before.rows.matching ∨ item ∈ listed) ∧
        before.Placed handler property)
    (motion : Motion handler listed permit view after effects) :
    after.Ordered handler unnamed := by
  cases motion with
  | set update =>
      have marked := ViewSettings.Marked.apply view.settings update
      refine ⟨ordered.sorted, fun unmarked sorted id set => ?_⟩
      rw [marked.property unmarked] at set
      rw [marked.ascending unmarked]
      exact ordered.current (marked.kept unmarked) sorted id set
  | addEmptyFilter => exact ⟨ordered.sorted, ordered.current⟩
  | filter filters =>
      refine ⟨fun _ sorted => ?_, fun _ sorted => ?_⟩
      · cases sorted
      · cases sorted
  | activate paused inactive =>
      refine ⟨fun _ sorted => ?_, fun _ sorted => ?_⟩
      · cases paused <;> cases sorted
      · cases paused <;> cases sorted
  | pause =>
      unfold ListView.pause
      split
      · rename_i active
        exact ⟨fun _ => ordered.sorted (by simp [active]), ordered.current⟩
      · exact ordered
  | unpause paused =>
      refine ⟨fun _ sorted => ?_, fun _ sorted => ?_⟩
      · cases sorted
      · cases sorted
  | flush permitted =>
      by_cases runs : ∃ property, view.Ready property
      · obtain ⟨property, ready⟩ := runs
        obtain ⟨named, ranked, placed⟩ := allowed view permitted property ready
        -- After a flush all rows are in order, loose or not.
        have sorted := (passed_sorted_iff tracks named ordered ready ranked).mpr placed
        rw [flush_ready handler ready]
        refine ⟨fun _ _ id ascending sorting => ?_, fun _ _ id set => ?_⟩
        · rw [passed_sortedBy] at sorting
          obtain ⟨rfl, rfl⟩ := Prod.mk.inj (Option.some.inj sorting)
          exact sorted.imp fun apart _ _ => apart
        · have same : some property = some id := ready.sorted.symm.trans set
          rw [passed_sortedBy, Option.some.inj same]
          rfl
      · rw [flush_idle handler (not_exists.mp runs)]
        exact ordered
  | stop =>
      refine ⟨fun there => absurd rfl there, ?_⟩
      rintro _ _ id ⟨⟩
  | reload =>
      unfold ListView.reload
      split
      · exact ordered
      · refine ⟨fun _ sorted => ?_, fun _ sorted => ?_⟩
        · cases sorted
        · cases sorted

end ListView

namespace Scene

variable {allowed : Scene Ref → Prop} {scene first last : Scene Ref}

/-- The order that is set is consistent on the rows in the view and the items of the source. -/
def Ranked (scene : Scene Ref) : Prop :=
  ∀ property, scene.view.settings.sortProperty = some property →
    View.Ranked (scene.handler.compare property scene.view.settings.sortAscending)
      fun item => item ∈ scene.view.rows.matching ∨ item ∈ scene.listed

def Placed (scene : Scene Ref) : Prop :=
  ∀ property, scene.view.Ready property → scene.view.Placed scene.handler property

/-- A flush would sort all rows, or find them in order as they stand, or take none of them out. -/
def Clear (scene : Scene Ref) : Prop :=
  ∀ property, scene.view.Ready property → scene.view.Resorts property ∨
    View.Sorted (scene.handler.compare property scene.view.settings.sortAscending)
      scene.view.rows.matching ∨
    ∀ item ∈ scene.view.rows.matching, ¬ scene.view.Leaving scene.handler.key item

def Sorted (scene : Scene Ref) : Prop :=
  ∀ property, scene.view.settings.sortProperty = some property →
    View.Sorted (scene.handler.compare property scene.view.settings.sortAscending)
      scene.view.rows.matching

def Orderly (scene : Scene Ref) : Prop := scene.Named ∧ scene.Ranked ∧ scene.Placed

theorem Orderly.permits {act : ViewAct} (permits : scene.Permits Orderly act) :
    ∀ before, (scene.view.permit scene.handler act).flush before → ∀ property,
      before.Ready property → (∀ item ∈ scene.listed, ∀ id, ¬ scene.unnamed item id) ∧
        View.Ranked (scene.handler.compare property before.settings.sortAscending)
          (fun item => item ∈ before.rows.matching ∨ item ∈ scene.listed) ∧
        before.Placed scene.handler property := by
  intro before flushes property ready
  obtain ⟨named, ranked, placed⟩ := permits before flushes ⟨ready.active, ready.sortable⟩
  exact ⟨named, ranked property ready.sorted, placed property ready⟩

theorem Tracked.ordered_act (tracked : scene.Tracked)
    (ordered : scene.view.Ordered scene.handler scene.unnamed) {act : ViewAct}
    (permits : scene.Permits Orderly act) (heard : scene.Permits Heard act) :
    (scene.act act).view.Ordered scene.handler scene.unnamed := by
  have settled (before : ListView Ref) (flushes : (scene.view.permit scene.handler act).flush before)
      (active : before.phase = .active) (sorted : before.settings.sortProperty.isSome) :
      ∀ item ∈ scene.listed, ¬ scene.unheard item := heard before flushes ⟨active, sorted⟩
  have both := (ListView.act_motions act).keep
    (fun view => view.Tracks scene.handler scene.listed (¬ scene.unheard ·) ∧
      view.Ordered scene.handler scene.unnamed)
    (fun _ _ _ motion kept => ⟨kept.1.motion tracked.distinct settled motion,
      kept.2.motion kept.1 (Orderly.permits permits) motion⟩)
    ⟨tracked.tracks, ordered⟩
  exact both.2

theorem ordered_step (tracked : first.Tracked)
    (ordered : first.view.Ordered first.handler first.unnamed)
    (covered : ∀ item, first.unheard item → ∃ id, first.unnamed item id)
    (step : Step Orderly first last) : last.view.Ordered last.handler last.unnamed := by
  cases step with
  | change handler listed touched alike same =>
      refine ordered.loosen rfl rfl rfl (fun _ id row loose => ?_)
        fun id ascending one other left right => ?_
      · rcases loose with missing | waits
        · exact .inl (.inl missing)
        · exact .inr (alike.key.symm ▸ waits)
      · exact alike.compare id ascending (fun touch => left (.inl (.inr touch)))
          fun touch => right (.inl (.inr touch))
  | add item listed fresh more =>
      exact ordered.hear (unnamed_add item) fun there _ => tracked.no_update there fresh
  | remove item listed fewer =>
      refine ordered.hear (fun row id missing => .inl missing) ?_
      rintro _ ⟨⟩
  | update items changed present => exact ordered.hearAll items changed
  | act act permits =>
      refine tracked.ordered_act ordered permits fun before flushes flushable => ?_
      exact Named.heard (permits before flushes flushable).1 covered

theorem Run.ordered {handler : Handler Ref} {listed : List Ref}
    (distinct : (listed.map handler.key).Nodup)
    (run : Run Orderly (Scene.start handler listed) scene) :
    scene.Tracked ∧ scene.view.Ordered scene.handler scene.unnamed := by
  have start : ∀ item, (Scene.start handler listed).unheard item →
      ∃ id, (Scene.start handler listed).unnamed item id := fun _ never => never.elim
  induction run with
  | rest => exact ⟨Tracked.start handler distinct, ListView.Ordered.start⟩
  | next run step ih =>
      have heard := (run.next step).heard (fun _ orderly => orderly.1) start
      exact ⟨heard.tracked (Tracked.start handler distinct),
        ordered_step ih.1 ih.2 (run.covered start) step⟩

end Scene

open Scene

/-- After a run in which every flush put each new row in order, and then a flush for which the source
has named all that changed: the rows in the view are in order exactly if this flush puts each new
row in order among the rows that stay, too. It does if it sorts all rows, if it finds them in order
as they stand, or if none of them waits to be taken out. -/
theorem sorted_iff_placed {handler : Handler Ref} {listed : List Ref} {scene : Scene Ref}
    (distinct : (listed.map handler.key).Nodup)
    (run : Run Orderly (Scene.start handler listed) scene) (act : ViewAct) {before : ListView Ref}
    (flushes : scene.view.flushing scene.handler act = some before) :
    let flushed : Scene Ref := { scene with view := before }
    let after := scene.act act
    flushed.Named → flushed.Ranked → after.Flushable →
      (after.Sorted ↔ flushed.Placed) ∧ (flushed.Clear → flushed.Placed) := by
  intro flushed after named ranked flushable
  obtain ⟨tracked, ordered⟩ := run.ordered distinct
  have motions : ListView.Motions scene.handler scene.listed ⟨fun _ => False, False⟩ scene.view
      before [] := ListView.flushing_motions flushes
  have reached := motions.keep
    (fun view => view.Tracks scene.handler scene.listed (¬ scene.unheard ·) ∧
      view.Ordered scene.handler scene.unnamed)
    (fun _ _ _ motion kept =>
      ⟨kept.1.motion tracked.distinct (fun _ (never : False) => never.elim) motion,
        kept.2.motion kept.1 (fun _ (never : False) => never.elim) motion⟩)
    ⟨tracked.tracks, ordered⟩
  have performed : after = _ := act_eq flushes (run.timed ListView.Timed.start)
  rw [performed] at flushable ⊢
  have quiet := ListView.flush_quiet flushable.1 flushable.2
  by_cases runs : ∃ property, before.Ready property
  · obtain ⟨property, ready⟩ := runs
    have order := ranked property ready.sorted
    have only (other : PropertyId) (set : before.settings.sortProperty = some other) :
        property = other := Option.some.inj (ready.sorted.symm.trans set)
    have iff := ListView.passed_sorted_iff reached.1 named reached.2 ready order
    rw [ListView.flush_ready _ ready]
    refine ⟨⟨fun sorted other there => ?_, fun placed other set => ?_⟩, fun clear other there => ?_⟩
    · obtain rfl := only other there.sorted
      exact iff.mp (sorted property ready.sorted)
    · obtain rfl := only other set
      exact iff.mpr (placed property ready)
    · obtain rfl := only other there.sorted
      exact ListView.placed_of_order reached.1 named reached.2 ready order (clear property ready)
  · have idle := not_exists.mp runs
    rw [ListView.flush_idle _ idle] at flushable quiet ⊢
    have there : before.phase ≠ .inactive := ListView.there_of_active flushable.1
    refine ⟨⟨fun _ property ready => absurd ready (idle property), fun _ property set => ?_⟩,
      fun _ property ready => absurd ready (idle property)⟩
    exact ListView.quiet_sorted reached.1 named reached.2 there quiet set

def Entry.sampleOrder (tag : Nat) : Scene Nat :=
  let before := fun id => if id = 4 then 50 else id
  let after := fun id => if id = 2 then tag else before id
  let flushed := ((Scene.start (Entry.tagged before) [1, 2, 3]).act
    (.configure { sortProperty := some 2, maxCount := some 5 })).act (.command .flush)
  let changed := (flushed.add 4 [1, 2, 3, 4]).change (Entry.tagged after) [1, 2, 3, 4]
    (fun ref id => after ref ≠ before ref ∧ Entry.properties.Has id)
  (changed.update [2] [0, 1, 2, 3, 4, 5]).remove 2 [1, 3, 4]

theorem Entry.tagged_ranked (tags : Nat → Nat) (among : Nat → Prop) :
    View.Ranked ((Entry.tagged tags).compare 2 true) among where
  swap first second _ _ := (Nat.compare_swap (tags first) (tags second)).symm
  trans first second third _ _ _ left right := by
    have below : tags first ≤ tags second := Nat.compare_ne_gt.mp left
    have above : tags second ≤ tags third := Nat.compare_ne_gt.mp right
    exact Nat.compare_ne_gt.mpr (Nat.le_trans below above)

theorem Entry.sampleOrder_run (tag : Nat) :
    Run Orderly (Scene.start (Entry.tagged fun id => if id = 4 then 50 else id) [1, 2, 3])
      (Entry.sampleOrder tag) := by
  have present : ∀ item ∈ [2], item ∈ [1, 2, 3, 4] := by decide
  refine .next ?_ (.remove 2 [1, 3, 4] (.swap 2 1 [3, 4]))
  refine .next ?_ (.update [2] [0, 1, 2, 3, 4, 5] present)
  refine .next ?_ (.change _ _ _ (Entry.tagged_alike _ _) (.refl _))
  refine .next ?_ (.add 4 [1, 2, 3, 4] (by decide) (by decide))
  refine .next (.next .rest (.act _ ?_)) (.act _ ?_)
  · rintro _ ⟨⟩
  · rintro _ ⟨⟩ _
    refine ⟨fun _ _ _ never => never, ?_, ?_⟩
    · rintro _ ⟨⟩
      exact Entry.tagged_ranked _ _
    · -- Nothing has changed since the source was taken over, so the batch is empty.
      exact fun _ _ => trivial

theorem Entry.sampleOrder_named (tag : Nat) : (Entry.sampleOrder tag).Named := by
  rintro item lists id ⟨⟨never, _⟩ | ⟨different, _⟩, _⟩
  · exact never
  · have remains : item ∈ [1, 3, 4] := lists
    have others : item ≠ 2 := by
      rintro rfl
      exact absurd remains (by decide)
    exact different (if_neg others)

theorem Entry.sampleOrder_ranked (tag : Nat) : (Entry.sampleOrder tag).Ranked := by
  rintro _ ⟨⟩
  exact Entry.tagged_ranked _ _

theorem sampleOrder_sorted :
    let scene := Entry.sampleOrder 20
    let after := scene.act (.command .flush)
    scene.Named ∧ scene.Ranked ∧ after.Flushable ∧
      (after.Sorted ↔ scene.Placed) ∧ (scene.Clear → scene.Placed) := by
  intro scene after
  have named := Entry.sampleOrder_named 20
  have ranked := Entry.sampleOrder_ranked 20
  have flushable : after.Flushable := ⟨by decide +kernel, by decide +kernel⟩
  exact ⟨named, ranked, flushable, sorted_iff_placed (by decide) (Entry.sampleOrder_run 20)
    (.command .flush) rfl named ranked flushable⟩

/-- The entry that is about to go stands out of order with its new tag. It misleads the search for
the place of the new entry, which ends up before one with a smaller tag. -/
theorem sampleOrder_unsorted :
    let scene := Entry.sampleOrder 100
    let after := scene.act (.command .flush)
    Run Orderly (Scene.start (Entry.tagged fun id => if id = 4 then 50 else id) [1, 2, 3]) scene ∧
      scene.Named ∧ scene.Ranked ∧ after.Flushable ∧ after.view.rows.matching = [1, 4, 3] ∧
      ¬ after.Sorted := by
  intro scene after
  have rows : after.view.rows.matching = [1, 4, 3] := by decide +kernel
  refine ⟨Entry.sampleOrder_run 100, Entry.sampleOrder_named 100, Entry.sampleOrder_ranked 100,
    ⟨by decide +kernel, by decide +kernel⟩, rows, fun sorted => ?_⟩
  have pairs := sorted 2 (by decide +kernel)
  rw [rows] at pairs
  revert pairs
  decide +kernel

end LiveList
