import LiveList.Proofs.View.Ticking
import LiveList.Proofs.View.Tracking
import Mathlib.Data.List.Induction

/-!
One item in two places. A view holds the items that it knows, and it holds its rows; a row should be
the very item that is known by its key, so that what is told and sorted is what was put to the
filters. An update that brings another item for a row that stays tears the two apart: the view knows
the new item from then on, and shows the old one. Nothing else does.
-/

namespace LiveList

variable {Ref : Type}

namespace Cell

variable {passes : Ref → Bool} {waiting : Option (Change Ref)} {change : Change Ref}
  {cell : Cell Ref} {among : Ref → Prop} {item : Ref}

theorem turn_present (add : change.kind = .add) (keeps : change.replaces = false)
    (known : cell.known = some item) : cell.turn passes change = cell := by
  simp [turn, add, keeps, known]

theorem turn_absent (update : change.kind = .update) (unknown : cell.known = none) :
    cell.turn passes change = cell := by
  simp [turn, update, unknown]

/-- All that a change can make of a cell. -/
theorem turn_cases (passes : Ref → Bool) (change : Change Ref) (cell : Cell Ref) :
    cell.turn passes change = cell ∨
      cell.turn passes change = { cell with known := none, shown := none } ∨
      cell.turn passes change = { cell with
        known := some change.item
        shown := if passes change.item then some change.item else none } ∨
      change.kind = .update ∧ (cell.turn passes change).known = some change.item ∧
        (cell.turn passes change).shown =
          if passes change.item then cell.shown.or (some change.item) else none := by
  cases kind : change.kind with
  | remove => exact .inr (.inl (turn_remove kind))
  | add =>
      by_cases free : change.replaces = false → cell.known = none
      · exact .inr (.inr (.inl (turn_add kind free)))
      · simp only [Classical.not_imp] at free
        obtain ⟨old, known⟩ := Option.ne_none_iff_exists'.mp free.2
        exact .inl (turn_present kind free.1 known)
  | update =>
      cases known : cell.known with
      | none => exact .inl (turn_absent kind known)
      | some old =>
          rw [turn_update kind known]
          exact .inr (.inr (.inr ⟨rfl, rfl, rfl⟩))

/-- An update that leaves the row in the view brings the item that the row is. -/
def Faithful (passes : Ref → Bool) (waiting : Option (Change Ref)) (cell : Cell Ref) : Prop :=
  ∀ change, waiting = some change → change.kind = .update → passes change.item = true →
    ∀ row, cell.shown = some row → row = change.item

theorem Inside.turn_iff (inside : cell.Inside) :
    (cell.turn passes change).Inside ↔ cell.Faithful passes (some change) := by
  constructor
  · rintro after _ ⟨⟩ update stays row shown
    rw [turn_update update (inside row shown)] at after
    simpa [stays, shown, eq_comm] using after row
  · intro faithful
    rcases turn_cases passes change cell with same | gone | entered | ⟨update, known, shown⟩
    · rwa [same]
    · rw [gone]
      rintro row ⟨⟩
    · rw [entered]
      intro row shown
      split at shown
      · exact shown
      · cases shown
    · intro row there
      rw [shown] at there
      split at there
      · rename_i stays
        rcases Option.or_eq_some_iff.mp there with before | ⟨_, new⟩
        · rw [known, faithful change rfl update stays row before]
        · rw [known, new]
      · cases there

theorem Inside.settle_iff (inside : cell.Inside) :
    (cell.settle passes waiting).Inside ↔ cell.Faithful passes waiting := by
  cases waiting with
  | some change => exact inside.turn_iff
  | none =>
      refine iff_of_true inside ?_
      rintro change ⟨⟩

structure Within (among : Ref → Prop) (cell : Cell Ref) : Prop where
  known : ∀ item, cell.known = some item → among item
  shown : ∀ row, cell.shown = some row → among row

theorem Within.settle (within : cell.Within among)
    (comes : ∀ change, waiting = some change → among change.item) :
    (cell.settle passes waiting).Within among := by
  cases waiting with
  | none => exact within
  | some change =>
      have new : among change.item := comes change rfl
      show (cell.turn passes change).Within among
      rcases turn_cases passes change cell with same | gone | entered | ⟨_, known, shown⟩
      · rwa [same]
      · rw [gone]
        exact ⟨by rintro item ⟨⟩, by rintro row ⟨⟩⟩
      · rw [entered]
        refine ⟨?_, fun row shown => ?_⟩
        · rintro item ⟨⟩
          exact new
        · split at shown
          · exact Option.some.inj shown ▸ new
          · cases shown
      · refine ⟨fun item there => ?_, fun row there => ?_⟩
        · rw [known] at there
          exact Option.some.inj there ▸ new
        · rw [shown] at there
          split at there
          · rcases Option.or_eq_some_iff.mp there with before | ⟨_, same⟩
            · exact within.shown row before
            · exact Option.some.inj same ▸ new
          · cases there

end Cell

namespace Rows

variable {key : Ref → Nat} {k : Nat} {rows : Rows Ref}

/-- The row with a key, if there is one, is the item that is known by the key. -/
def Coherent (key : Ref → Nat) (k : Nat) (rows : Rows Ref) : Prop :=
  ∀ row ∈ rows.matching, key row = k → ∃ arrival,
    Assoc.get? rows.index k = some arrival ∧ Assoc.get? rows.items arrival = some row

theorem Indexed.found_iff (indexed : rows.Indexed key) {row : Ref} (same : key row = k) :
    (∃ arrival, Assoc.get? rows.index k = some arrival ∧ Assoc.get? rows.items arrival = some row) ↔
      row ∈ rows.known := by
  rw [mem_known]
  constructor
  · rintro ⟨arrival, _, entry⟩
    exact ⟨arrival, Assoc.mem_of_get? entry⟩
  · rintro ⟨arrival, entry⟩
    exact ⟨arrival, (indexed.index k arrival).mpr ⟨row, entry, same⟩,
      (Assoc.get?_iff_mem indexed.arrivals).mpr entry⟩

/-- Rows that were filtered anew are known items. -/
theorem Indexed.refilter_coherent {handler : Handler Ref} (indexed : rows.Indexed handler.key)
    (filters : List Filter) : (rows.refilter handler filters).Coherent handler.key k :=
  fun _ member same => (indexed.found_iff same).mpr (List.mem_filter.mp member).1

theorem Indexed.mem_known_insertAll {handler : Handler Ref} (indexed : rows.Indexed handler.key)
    {items : List Ref} {item : Ref} (member : item ∈ (rows.insertAll handler items).known) :
    item ∈ rows.known ∨ item ∈ items := by
  induction items generalizing rows with
  | nil => exact .inl member
  | cons first rest ih =>
      rcases ih (indexed.insert first) member with early | late
      · rw [indexed.known_insert] at early
        split at early
        · exact .inl early
        · rcases List.mem_append.mp early with old | new
          · exact .inl old
          · exact .inr (List.mem_singleton.mp new ▸ List.mem_cons_self)
      · exact .inr (List.mem_cons_of_mem first late)

end Rows

namespace ListView

variable {key : Ref → Nat} {handler : Handler Ref} {source : List Ref} {k : Nat}
  {view after : ListView Ref} {permit : Permit Ref} {effects : List ViewEffect} {among : Ref → Prop}

/-- A flush would take in no update that brings another item for the row with a key. -/
def Faithful (handler : Handler Ref) (k : Nat) (view : ListView Ref) : Prop :=
  ∀ property, view.Ready property → ∀ change, view.changes.waiting k = some change →
    change.kind = .update → view.passes handler change.item = true →
      ∀ row ∈ view.rows.matching, handler.key row = k → row = change.item

theorem Sound.coherent_iff (sound : view.Sound key) :
    view.rows.Coherent key k ↔ (view.cell key k).Inside := by
  have shows (row : Ref) : (view.cell key k).shown = some row ↔
      row ∈ view.rows.matching ∧ key row = k := holder_eq_some sound.rows.distinct
  have knows (item : Ref) : (view.cell key k).known = some item ↔
      item ∈ view.rows.known ∧ key item = k := holder_eq_some sound.rows.known_distinct
  constructor
  · intro coherent row shown
    obtain ⟨member, same⟩ := (shows row).mp shown
    have found := (sound.rows.found_iff same).mp (coherent row member same)
    exact (knows row).mpr ⟨found, same⟩
  · intro inside row member same
    have known := inside row ((shows row).mpr ⟨member, same⟩)
    exact (sound.rows.found_iff same).mpr ((knows row).mp known).1

theorem Sound.faithful_iff (sound : view.Sound handler.key) :
    view.Faithful handler k ↔ ∀ property, view.Ready property →
      (view.cell handler.key k).Faithful (view.passes handler) (view.changes.waiting k) := by
  have shows (row : Ref) : (view.cell handler.key k).shown = some row ↔
      row ∈ view.rows.matching ∧ handler.key row = k := holder_eq_some sound.rows.distinct
  simp only [Faithful, Cell.Faithful, shows, and_imp]

/-- A flush keeps the row and the known item together exactly if it is faithful. -/
theorem Sound.flush_coherent_iff (sound : view.Sound handler.key)
    (coherent : view.rows.Coherent handler.key k) :
    (view.flush handler).view.rows.Coherent handler.key k ↔ view.Faithful handler k := by
  rw [sound.coherent_iff] at coherent
  rw [sound.flush.coherent_iff, sound.faithful_iff]
  by_cases runs : ∃ property, view.Ready property
  · obtain ⟨property, ready⟩ := runs
    have ended : ((view.passed handler property).cell handler.key k).Inside ↔
        ((view.passEnd handler property).cell handler.key k).Inside := Iff.rfl
    have turned : (view.passEnd handler property).cell handler.key k =
        (view.cell handler.key k).settle (view.passes handler) (view.changes.waiting k) :=
      sound.passEnd_cell property k
    rw [flush_ready handler ready, ended, turned, coherent.settle_iff]
    exact ⟨fun faithful _ _ => faithful, fun faithful => faithful property ready⟩
  · have idle := not_exists.mp runs
    rw [flush_idle handler idle]
    exact ⟨fun _ property ready => absurd ready (idle property), fun _ => coherent⟩

theorem coherent_motion (coherent : view.rows.Coherent handler.key k)
    (sound : view.Sound handler.key)
    (faithful : ∀ moment, permit.flush moment → moment.Faithful handler k)
    (motion : Motion handler source permit view after effects) :
    after.rows.Coherent handler.key k := by
  cases motion with
  | set | addEmptyFilter => exact coherent
  | filter filters => exact sound.rows.toIndexed.refilter_coherent filters.compiled
  | activate paused inactive =>
      have taken := sound.rows.toIndexed.insertAll source
      cases paused <;> exact taken.refilter_coherent view.filters.compiled
  | pause =>
      unfold ListView.pause
      split <;> exact coherent
  | unpause paused => exact coherent
  | flush allowed => exact (sound.flush_coherent_iff coherent).mpr (faithful _ allowed)
  | stop =>
      rintro row ⟨⟩
  | reload =>
      unfold ListView.reload
      split
      · exact coherent
      · have taken := (Rows.clearItems_indexed handler.key view.rows).insertAll source
        exact taken.refilter_coherent view.filters.compiled

/-- An act keeps the row and the known item together exactly if the flush that it makes, if it makes
one, is faithful. -/
theorem act_coherent_iff (coherent : view.rows.Coherent handler.key k)
    (sound : view.Sound handler.key) (timed : view.Timed) (act : ViewAct) :
    (view.act handler source act).view.rows.Coherent handler.key k ↔
      ∀ before, view.flushing handler act = some before → before.Faithful handler k := by
  constructor
  · intro after before flushes
    have motions : Motions handler source ⟨fun _ => False, False⟩ view before [] :=
      flushing_motions flushes
    have kept : before.Sound handler.key ∧ before.rows.Coherent handler.key k := by
      refine motions.keep (fun view => view.Sound handler.key ∧ view.rows.Coherent handler.key k)
        (fun _ _ _ motion kept => ?_) ⟨sound, coherent⟩
      exact ⟨kept.1.motion motion, coherent_motion kept.2 kept.1 (fun _ => False.elim) motion⟩
    rw [act_flushes flushes timed] at after
    exact (kept.1.flush_coherent_iff kept.2).mp after
  · intro faithful
    refine ((act_motions act).keep
      (fun view => view.Sound handler.key ∧ view.rows.Coherent handler.key k)
      (fun _ _ _ motion kept => ?_) ⟨sound, coherent⟩).2
    exact ⟨kept.1.motion motion, coherent_motion kept.2 kept.1 faithful motion⟩

theorem meet_coherent {occasion : Occasion Ref}
    (coherent : view.rows.Coherent occasion.handler.key k) (sound : view.Sound occasion.handler.key)
    (timed : view.Timed)
    (faithful : ∀ act, occasion.event = .acted act → ∀ before,
      view.flushing occasion.handler act = some before → before.Faithful occasion.handler k) :
    (view.meet occasion).view.rows.Coherent occasion.handler.key k := by
  obtain ⟨handler, source, event⟩ := occasion
  cases event with
  | heard kind item changed =>
      have kept := hear_rows handler view kind item changed
      exact kept ▸ coherent
  | heardAll items changed =>
      have kept := hearAll_rows handler view items changed
      exact kept ▸ coherent
  | acted act => exact (act_coherent_iff coherent sound timed act).mpr (faithful act rfl)

structure Within (among : Ref → Prop) (view : ListView Ref) : Prop where
  known : ∀ item ∈ view.rows.known, among item
  shown : ∀ row ∈ view.rows.matching, among row
  waiting : ∀ k change, view.changes.waiting k = some change → among change.item

/-- A view without items and changes, as it is at the start and when it has stopped. -/
theorem Within.empty (items : view.rows.known = []) (rows : view.rows.matching = [])
    (changes : view.changes = {}) : view.Within among := by
  refine ⟨?_, ?_, ?_⟩
  · rw [items]
    rintro item ⟨⟩
  · rw [rows]
    rintro row ⟨⟩
  · rw [changes]
    rintro k change ⟨⟩

theorem Within.mono (within : view.Within among) {others : Ref → Prop}
    (more : ∀ item, among item → others item) : view.Within others where
  known item member := more item (within.known item member)
  shown row member := more row (within.shown row member)
  waiting k change waits := more change.item (within.waiting k change waits)

theorem Within.hear (within : view.Within among) (kind : ChangeKind) {item : Ref}
    (new : among item) (changed : PropertySet) :
    (view.hear handler kind item changed).Within among := by
  refine ⟨?_, ?_, fun k change waits => ?_⟩
  · rw [hear_rows]
    exact within.known
  · rw [hear_rows]
    exact within.shown
  · unfold ListView.hear at waits
    split at waits
    · exact within.waiting k change waits
    · rw [Changes.waiting_report] at waits
      split at waits
      · rw [← Option.some.inj waits, Changes.reported_item]
        exact new
      · exact within.waiting k change waits

theorem Within.flush (within : view.Within among) (sound : view.Sound handler.key) :
    (view.flush handler).view.Within among := by
  by_cases runs : ∃ property, view.Ready property
  · obtain ⟨property, ready⟩ := runs
    have cell (k : Nat) : ((view.passEnd handler property).cell handler.key k).Within among := by
      have before : (view.cell handler.key k).Within among :=
        ⟨fun item found => within.known item (holder_mem found),
          fun row found => within.shown row (holder_mem found)⟩
      rw [sound.passEnd_cell]
      exact before.settle fun change waits => within.waiting k change waits
    have valid := sound.passEnd property
    rw [flush_ready handler ready]
    refine ⟨fun item member => ?_, fun row member => ?_, ?_⟩
    · exact (cell (handler.key item)).known item
        ((holder_eq_some valid.known_distinct).mpr ⟨member, rfl⟩)
    · exact (cell (handler.key row)).shown row ((holder_eq_some valid.distinct).mpr ⟨member, rfl⟩)
    · rintro k change ⟨⟩
  · rw [flush_idle handler (not_exists.mp runs)]
    exact within

theorem Within.motion (within : view.Within among) (sound : view.Sound handler.key)
    (listed : ∀ item ∈ source, among item)
    (motion : Motion handler source permit view after effects) : after.Within among := by
  have fewer {rows : Rows Ref} {filters : List Filter} (known : ∀ item ∈ rows.known, among item) :
      ∀ row ∈ (rows.refilter handler filters).matching, among row := fun row member =>
    known row (List.mem_filter.mp member).1
  cases motion with
  | set | addEmptyFilter => exact ⟨within.known, within.shown, within.waiting⟩
  | filter filters => exact ⟨within.known, fewer within.known, within.waiting⟩
  | activate paused inactive =>
      have known : ∀ item ∈ (view.rows.insertAll handler source).known, among item :=
        fun item member =>
          (sound.rows.toIndexed.mem_known_insertAll member).elim (within.known item) (listed item)
      cases paused <;> exact ⟨known, fewer known, within.waiting⟩
  | pause =>
      unfold ListView.pause
      split <;> exact ⟨within.known, within.shown, within.waiting⟩
  | unpause paused => exact ⟨within.known, within.shown, within.waiting⟩
  | flush => exact within.flush sound
  | stop => exact .empty rfl rfl rfl
  | reload =>
      unfold ListView.reload
      split
      · exact within
      · have known (item : Ref)
            (member : item ∈ (view.rows.clearItems.insertAll handler source).known) :
            among item := by
          have cleared := Rows.clearItems_indexed handler.key view.rows
          rcases cleared.mem_known_insertAll member with old | new
          · cases old
          · exact listed item new
        refine ⟨known, fewer known, ?_⟩
        rintro k change ⟨⟩

/-- A key by which only one item is held has no other one waiting for its row. -/
theorem Within.faithful (within : view.Within among) (sound : view.Sound handler.key)
    (single : ∀ first second, among first → among second → handler.key first = k →
      handler.key second = k → first = second) : view.Faithful handler k :=
  fun _ _ change waits _ _ row member same =>
    single row change.item (within.shown row member) (within.waiting k change waits) same
      (sound.changes.waiting_keyed waits)

end ListView

def Occasion.items (occasion : Occasion Ref) : List Ref :=
  occasion.source ++
    match occasion.event with
    | .heard _ item _ => [item]
    | .heardAll items _ => items
    | .acted _ => []

namespace ListView

variable {key : Ref → Nat} {among : Ref → Prop} {view : ListView Ref}

theorem Within.meet {occasion : Occasion Ref} (within : view.Within among)
    (sound : view.Sound occasion.handler.key) (mentioned : ∀ item ∈ occasion.items, among item) :
    (view.meet occasion).view.Within among := by
  obtain ⟨handler, source, event⟩ := occasion
  have listed : ∀ item ∈ source, among item := fun item member =>
    mentioned item (List.mem_append_left _ member)
  have reported := fun item member => mentioned item (List.mem_append_right source member)
  cases event with
  | heard kind item changed => exact within.hear kind (reported item List.mem_cons_self) changed
  | heardAll items changed =>
      simp only [ListView.meet, hearAllUpdated]
      exact List.foldlRecOn items _ within fun view within item member =>
        within.hear .update (reported item member) changed
  | acted act =>
      refine ((act_motions act).keep (fun view => view.Sound handler.key ∧ view.Within among)
        (fun _ _ _ motion kept => ?_) ⟨sound, within⟩).2
      exact ⟨kept.1.motion motion, kept.2.motion kept.1 listed motion⟩

theorem Within.live (within : view.Within among) (sound : view.Sound key)
    {occasions : List (Occasion Ref)}
    (keyed : ∀ occasion ∈ occasions, occasion.handler.key = key)
    (mentioned : ∀ item ∈ occasions.flatMap Occasion.items, among item) :
    (view.live occasions).view.Within among := by
  induction occasions generalizing view with
  | nil => exact within
  | cons occasion rest ih =>
      have same := keyed occasion List.mem_cons_self
      have here : ∀ item ∈ occasion.items, among item := fun item member =>
        mentioned item (List.mem_append_left _ member)
      have later : ∀ item ∈ rest.flatMap Occasion.items, among item := fun item member =>
        mentioned item (List.mem_append_right _ member)
      have once : (view.live [occasion]).view.Sound key :=
        sound.live fun other member => List.mem_singleton.mp member ▸ same
      exact ih (within.meet (same ▸ sound) here) once
        (fun other member => keyed other (List.mem_cons_of_mem _ member)) later

end ListView

open ListView

def FlushedIn (occasions : List (Occasion Ref)) (handler : Handler Ref) (before : ListView Ref) :
    Prop :=
  ∃ past source act, past ++ [⟨handler, source, .acted act⟩] <+: occasions ∧
    (({} : ListView Ref).live past).view.flushing handler act = some before

theorem FlushedIn.keyed {occasions : List (Occasion Ref)} {handler : Handler Ref}
    {before : ListView Ref} {key : Ref → Nat} (flushed : FlushedIn occasions handler before)
    (keyed : ∀ occasion ∈ occasions, occasion.handler.key = key) : handler.key = key := by
  obtain ⟨past, source, act, early, _⟩ := flushed
  exact keyed _ (early.subset (List.mem_append_right past List.mem_cons_self))

/-- A view that is flushed in a run holds nothing but what the run mentions. -/
theorem FlushedIn.within {occasions : List (Occasion Ref)} {handler : Handler Ref}
    {before : ListView Ref} {key : Ref → Nat} (flushed : FlushedIn occasions handler before)
    (keyed : ∀ occasion ∈ occasions, occasion.handler.key = key) :
    before.Sound handler.key ∧ before.Within (· ∈ occasions.flatMap Occasion.items) := by
  obtain rfl := flushed.keyed keyed
  obtain ⟨past, source, act, early, flushes⟩ := flushed
  obtain ⟨rest, rfl⟩ := early
  let view := (({} : ListView Ref).live past).view
  have sooner : ∀ occasion ∈ past, occasion.handler.key = handler.key := fun occasion member =>
    keyed occasion (List.mem_append_left _ (List.mem_append_left _ member))
  have sound : view.Sound handler.key := Sound.start.live sooner
  have empty : ({} : ListView Ref).Within fun item => item ∈ past.flatMap Occasion.items :=
    .empty rfl rfl rfl
  have within := empty.live Sound.start sooner fun item member => member
  have motions : Motions handler [] ⟨fun _ => False, False⟩ view before [] :=
    flushing_motions flushes
  have kept := motions.keep
    (fun view => view.Sound handler.key ∧ view.Within (· ∈ past.flatMap Occasion.items))
    (fun _ _ _ motion kept => ⟨kept.1.motion motion,
      kept.2.motion kept.1 (fun item never => absurd never List.not_mem_nil) motion⟩)
    ⟨sound, within⟩
  refine ⟨kept.1, kept.2.mono fun item member => ?_⟩
  simp only [List.flatMap_append]
  exact List.mem_append_left _ (List.mem_append_left _ member)

/-- Whatever a view hears and whatever its owner does, its row with a key is always the item that it
knows by the key, exactly if all flushes of the run are faithful to that row. They are if no two
items with the key are ever mentioned. -/
theorem coherent_iff_faithful (key : Ref → Nat) (occasions : List (Occasion Ref))
    (keyed : ∀ occasion ∈ occasions, occasion.handler.key = key) (k : Nat) :
    ((∀ past, past <+: occasions → (({} : ListView Ref).live past).view.rows.Coherent key k) ↔
        ∀ handler before, FlushedIn occasions handler before → before.Faithful handler k) ∧
      ((∀ first ∈ occasions.flatMap Occasion.items, ∀ second ∈ occasions.flatMap Occasion.items,
          key first = k → key second = k → first = second) →
        ∀ handler before, FlushedIn occasions handler before → before.Faithful handler k) := by
  have sound (past : List (Occasion Ref)) (early : past <+: occasions) :
      (({} : ListView Ref).live past).view.Sound key :=
    Sound.start.live fun occasion member => keyed occasion (early.subset member)
  have timed (past : List (Occasion Ref)) : (({} : ListView Ref).live past).view.Timed :=
    Timed.start.live past
  refine ⟨⟨?_, ?_⟩, ?_⟩
  · rintro coherent handler before ⟨past, source, act, early, flushes⟩
    have sooner : past <+: occasions := (List.prefix_append _ _).trans early
    obtain rfl : handler.key = key :=
      keyed _ (early.subset (List.mem_append_right past List.mem_cons_self))
    have after := coherent _ early
    rw [live_concat] at after
    exact (act_coherent_iff (coherent past sooner) (sound past sooner) (timed past) act).mp after
      before flushes
  · intro faithful past early
    induction past using List.reverseRecOn with
    | nil =>
        rintro row ⟨⟩
    | append_singleton past occasion ih =>
        have sooner : past <+: occasions := (List.prefix_append _ _).trans early
        obtain rfl : occasion.handler.key = key :=
          keyed _ (early.subset (List.mem_append_right past List.mem_cons_self))
        rw [live_concat]
        refine meet_coherent (ih sooner) (sound past sooner) (timed past)
          fun act acts before flushes => ?_
        obtain ⟨handler, source, _⟩ := occasion
        obtain rfl := acts
        exact faithful handler before ⟨past, source, act, early, flushes⟩
  · intro single handler before flushed
    obtain ⟨valid, within⟩ := flushed.within keyed
    obtain rfl := flushed.keyed keyed
    exact within.faithful valid fun first second here there => single first here second there

def Entry.sampleHandles : List (Occasion Nat) :=
  let handler := Entry.handler.comap fun ref => { id := ref % 10, tag := ref }
  let on (event : ViewEvent Nat) : Occasion Nat := ⟨handler, [1, 2], event⟩
  [on (.acted (.configure { sortProperty := some 2, maxCount := some 5 })),
    on (.acted (.command .flush)), on (.heard .update 1 [2]), on (.heard .update 12 [2]),
    on (.acted (.command .flush))]

theorem sampleHandles_coherent :
    (∀ occasion ∈ Entry.sampleHandles, occasion.handler.key = (· % 10)) ∧
      (∀ handler before, FlushedIn Entry.sampleHandles handler before → before.Faithful handler 1) ∧
      ∀ past, past <+: Entry.sampleHandles →
        (({} : ListView Nat).live past).view.rows.Coherent (· % 10) 1 := by
  have keyed : ∀ occasion ∈ Entry.sampleHandles, occasion.handler.key = (· % 10) := by
    simp [Entry.sampleHandles]
    rfl
  have both := coherent_iff_faithful (· % 10) Entry.sampleHandles keyed 1
  have faithful := both.2 (by decide)
  exact ⟨keyed, faithful, both.1.mpr faithful⟩

/-- The view knows the entry that the update brought, and goes on showing the one before. -/
theorem sampleHandles_torn :
    let view := (({} : ListView Nat).live Entry.sampleHandles).view
    (∀ occasion ∈ Entry.sampleHandles, occasion.handler.key = (· % 10)) ∧
      view.rows.known = [1, 12] ∧ view.rows.matching = [1, 2] ∧
      ¬ view.rows.Coherent (· % 10) 2 := by
  intro view
  refine ⟨?_, by decide +kernel, by decide +kernel, fun coherent => ?_⟩
  · simp [Entry.sampleHandles]
    rfl
  · obtain ⟨arrival, found, stored⟩ := coherent 2 (by decide +kernel) rfl
    have index : Assoc.get? view.rows.index 2 = some 1 := by decide +kernel
    have known : Assoc.get? view.rows.items 1 = some 12 := by decide +kernel
    rw [index] at found
    rw [← Option.some.inj found, known] at stored
    cases stored

end LiveList
