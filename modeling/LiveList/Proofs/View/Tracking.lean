import LiveList.Proofs.View.Scene
import LiveList.Proofs.View.Sound

/-!
Membership. Whatever happens between two flushes, and in whatever order, after a flush a view knows
the items of its source, and has in it those of them that pass its filters as they are then.

The invariant goes key by key. Where no change waits, the view knows what the source lists; where one
waits, it is the one that makes up for the difference.
-/

namespace LiveList

variable {Ref : Type}

section Keys

variable {listed known : Option Ref} {waiting : Option (Change Ref)} {heard : Ref → Prop}
  {passes : Ref → Bool} {cell : Cell Ref} {change : Change Ref} {item : Ref}

/-- What a view knows by a key, and the change that waits for it, fit what the source lists. -/
def Fits (listed : Option Ref) (waiting : Option (Change Ref)) (known : Option Ref) : Prop :=
  match waiting with
  | none => known = listed
  | some change =>
      match change.kind with
      | .add => listed = some change.item ∧ (change.replaces = false → known = none)
      | .remove => listed = none
      | .update => listed = some change.item ∧ known = some change.item

namespace Fits

theorem hear_add (fits : Fits none waiting known) (item : Ref) :
    Fits (some item) (some (Changes.reported waiting item .add [])) known := by
  cases waiting with
  | none => exact ⟨rfl, fun _ => fits⟩
  | some change =>
      unfold Fits at fits
      cases kind : change.kind with
      | remove =>
          simp only [Changes.reported, Change.merge, kind]
          refine ⟨rfl, ?_⟩
          rintro ⟨⟩
      | add | update =>
          simp only [kind] at fits
          cases fits.1

theorem hear_remove (waiting : Option (Change Ref)) (item : Ref) :
    Fits none (some (Changes.reported waiting item .remove [])) known := by
  have removed : (Changes.reported waiting item .remove []).kind = .remove := by
    unfold Changes.reported Change.merge
    cases waiting with
    | none => rfl
    | some change => cases change.kind <;> rfl
  simp only [Fits, removed]

theorem hear_update (fits : Fits (some item) waiting known) (changed : PropertySet) :
    Fits (some item) (some (Changes.reported waiting item .update changed)) known := by
  cases waiting with
  | none => exact ⟨rfl, fits⟩
  | some change =>
      unfold Fits at fits
      cases kind : change.kind with
      | add =>
          simp only [kind] at fits
          simp only [Fits, Changes.reported, Change.merge, kind]
          exact ⟨trivial, fits.2⟩
      | remove =>
          simp only [kind] at fits
          cases fits
      | update =>
          simp only [kind] at fits
          simp only [Fits, Changes.reported, Change.merge, kind]
          exact ⟨trivial, fits.2.trans fits.1.symm⟩

end Fits

def Cell.Inside (cell : Cell Ref) : Prop :=
  ∀ item, cell.shown = some item → cell.known = some item

/-- What a view has for one key fits what the source lists, and known items of which there was word
since they changed are on the right side of the filters. -/
structure Agrees (heard : Ref → Prop) (passes : Ref → Bool) (listed : Option Ref)
    (waiting : Option (Change Ref)) (cell : Cell Ref) : Prop where
  fits : Fits listed waiting cell.known
  inside : cell.Inside
  filtered : waiting = none → ∀ item, cell.known = some item → heard item →
    (cell.shown = some item ↔ passes item = true)

namespace Agrees

/-- The change that waits for a key makes up for the difference. -/
theorem turn (agrees : Agrees heard passes listed (some change) cell) :
    Agrees (fun _ => True) passes listed none (cell.turn passes change) := by
  obtain ⟨fits, inside, _⟩ := agrees
  unfold Fits at fits
  cases kind : change.kind with
  | add =>
      simp only [kind] at fits
      obtain ⟨lists, free⟩ := fits
      rw [Cell.turn_add kind free, lists]
      refine ⟨rfl, ?_, ?_⟩
      · intro item shown
        split at shown
        · exact shown
        · cases shown
      · rintro _ item ⟨⟩ _
        split <;> simp [*]
  | remove =>
      simp only [kind] at fits
      rw [Cell.turn_remove kind, fits]
      refine ⟨rfl, ?_, ?_⟩
      · rintro item ⟨⟩
      · rintro _ item ⟨⟩
  | update =>
      simp only [kind] at fits
      obtain ⟨lists, knows⟩ := fits
      -- The row keeps its item, which is the one that was last reported.
      have shows : cell.shown.or (some change.item) = some change.item := by
        cases shown : cell.shown with
        | none => rfl
        | some old =>
            have same := inside old shown
            rw [knows] at same
            rw [Option.some.inj same]
            rfl
      rw [Cell.turn_update kind knows, lists, shows]
      refine ⟨rfl, ?_, ?_⟩
      · intro item shown
        split at shown
        · exact shown
        · cases shown
      · rintro _ item ⟨⟩ _
        split <;> simp [*]

theorem flush (agrees : Agrees heard passes listed waiting cell)
    (settled : ∀ item, listed = some item → heard item) :
    Agrees (fun _ => True) passes listed none (cell.settle passes waiting) := by
  cases waiting with
  | none =>
      refine ⟨agrees.fits, agrees.inside, fun same item known _ => ?_⟩
      exact agrees.filtered same item known (settled item (agrees.fits.symm.trans known))
  | some change => exact agrees.turn

/-- A report leaves the cell alone; as a change waits, nothing is said of the filters. -/
theorem hear {others : Option Ref} (agrees : Agrees heard passes listed waiting cell)
    (answers : Ref → Bool) (word : Ref → Prop) (fits : Fits others (some change) cell.known) :
    Agrees word answers others (some change) cell where
  fits := fits
  inside := agrees.inside
  filtered := by
    rintro ⟨⟩

theorem mono (agrees : Agrees heard passes listed waiting cell) {fewer : Ref → Prop}
    {answers : Ref → Bool}
    (still : ∀ item, listed = some item → fewer item → heard item ∧ answers item = passes item) :
    Agrees fewer answers listed waiting cell where
  fits := agrees.fits
  inside := agrees.inside
  filtered := by
    rintro rfl item known word
    have kept := still item (agrees.fits.symm.trans known) word
    rw [kept.2]
    exact agrees.filtered rfl item known kept.1

theorem refilter (fits : Fits listed waiting cell.known) (answers : Ref → Bool) :
    Agrees heard answers listed waiting { cell with shown := cell.known.filter answers } where
  fits := fits
  inside _ shown := (Option.filter_eq_some_iff.mp shown).1
  filtered := by
    intro _ item known _
    have knows : cell.known = some item := known
    simp only [Option.filter_eq_some_iff, knows, true_and]

end Agrees

end Keys

namespace ListView

def passes (handler : Handler Ref) (view : ListView Ref) (item : Ref) : Bool :=
  Filter.passAll view.filters.compiled handler item

/-- A view that fits its source, key by key; one that is inactive has nothing to fit. -/
structure Tracks (handler : Handler Ref) (listed : List Ref) (heard : Ref → Prop)
    (view : ListView Ref) : Prop where
  sound : view.Sound handler.key
  agrees : view.phase ≠ .inactive → ∀ k, Agrees heard (view.passes handler)
    (holder handler.key listed k) (view.changes.waiting k) (view.cell handler.key k)

variable {handler : Handler Ref} {listed : List Ref} {heard : Ref → Prop} {view after : ListView Ref}
  {permit : Permit Ref} {effects : List ViewEffect} {property : PropertyId}

theorem compiled_add (filters : FilterSlots) : filters.add.2.compiled = filters.compiled := by
  simp [FilterSlots.add, FilterSlots.compiled]

theorem refilter_cell (indexed : view.rows.Indexed handler.key) (k : Nat) :
    (view.refilter handler).cell handler.key k =
      { view.cell handler.key k with
        shown := (view.cell handler.key k).known.filter (view.passes handler) } := by
  have shown := holder_filter indexed.known_distinct (view.passes handler) k
  simp only [cell, Cell.mk.injEq, and_true]
  exact ⟨rfl, shown⟩

theorem Tracks.start : ({} : ListView Ref).Tracks handler listed heard where
  sound := Sound.start
  agrees absent := absurd rfl absent

theorem Tracks.refilter (indexed : view.rows.Indexed handler.key)
    (changes : view.changes.Valid handler.key)
    (silent : view.phase = .inactive → view.rows.known = [] ∧ view.changes = {})
    (fits : view.phase ≠ .inactive → ∀ k, Fits (holder handler.key listed k)
      (view.changes.waiting k) (holder handler.key view.rows.known k)) :
    (view.refilter handler).Tracks handler listed heard where
  sound := refilter_sound indexed changes silent
  agrees there k := by
    rw [refilter_cell indexed]
    exact Agrees.refilter (fits there k) _

theorem insertAll_holder {rows : Rows Ref} (indexed : rows.Indexed handler.key)
    (empty : rows.known = []) (distinct : (listed.map handler.key).Nodup) (k : Nat) :
    holder handler.key (rows.insertAll handler listed).known k = holder handler.key listed k := by
  have known := indexed.known_insertAll listed (by rwa [empty, List.nil_append])
  rw [known, empty, List.nil_append]

theorem passed_agrees (sound : view.Sound handler.key)
    (agrees : ∀ k, Agrees heard (view.passes handler) (holder handler.key listed k)
      (view.changes.waiting k) (view.cell handler.key k))
    (settled : ∀ item ∈ listed, heard item) (property : PropertyId) (k : Nat) :
    Agrees (fun _ => True) (view.passes handler) (holder handler.key listed k) none
      ((view.passed handler property).cell handler.key k) := by
  have flushed := (agrees k).flush fun item lists => settled item (holder_mem lists)
  have turned := sound.passEnd_cell property k
  have whole : Agrees (fun _ => True) (view.passes handler) (holder handler.key listed k) none
      ((view.passEnd handler property).cell handler.key k) := by
    rw [turned]
    exact flushed
  exact ⟨whole.fits, whole.inside, whole.filtered⟩

/-- After a flush no change waits, and every known item is on the right side of the filters. -/
theorem Tracks.flush_agrees (tracks : view.Tracks handler listed heard)
    (active : (view.flush handler).view.phase = .active)
    (sorted : (view.flush handler).view.settings.sortProperty.isSome)
    (settled : ∀ item ∈ listed, heard item) (k : Nat) :
    Agrees (fun _ => True) ((view.flush handler).view.passes handler)
      (holder handler.key listed k) none ((view.flush handler).view.cell handler.key k) := by
  have quiet := flush_quiet active sorted
  by_cases runs : ∃ property, view.Ready property
  · obtain ⟨property, ready⟩ := runs
    rw [flush_ready handler ready]
    exact passed_agrees tracks.sound (tracks.agrees ready.there) settled property k
  · rw [flush_idle handler (not_exists.mp runs)] at active quiet ⊢
    have there := there_of_active active
    have empty : view.changes.isEmpty = true := by
      simp only [hasNews, Bool.or_eq_false_iff, Bool.not_eq_eq_eq_not, Bool.not_false] at quiet
      exact quiet.1.1
    have agrees := tracks.agrees there k
    rw [tracks.sound.changes.isEmpty_iff.mp empty k] at agrees
    exact agrees.flush fun item lists => settled item (holder_mem lists)

/-- What fits key by key is the same as a whole. -/
theorem members_of_agrees (sound : view.Sound handler.key)
    (distinct : (listed.map handler.key).Nodup)
    (agrees : ∀ k, Agrees (fun _ => True) (view.passes handler) (holder handler.key listed k) none
      (view.cell handler.key k)) (item : Ref) :
    (item ∈ view.rows.known ↔ item ∈ listed) ∧
      (item ∈ view.rows.matching ↔ item ∈ view.rows.known ∧ view.passes handler item = true) := by
  have known : (view.cell handler.key (handler.key item)).known = some item ↔
      item ∈ view.rows.known := by
    rw [cell, holder_eq_some sound.rows.known_distinct]
    exact and_iff_left rfl
  have shown : (view.cell handler.key (handler.key item)).shown = some item ↔
      item ∈ view.rows.matching := by
    rw [cell, holder_eq_some sound.rows.distinct]
    exact and_iff_left rfl
  obtain ⟨fits, inside, filtered⟩ := agrees (handler.key item)
  constructor
  · rw [← known, fits, holder_eq_some distinct]
    exact and_iff_left rfl
  · rw [← known, ← shown]
    constructor
    · intro here
      have knows := inside item here
      exact ⟨knows, (filtered rfl item knows trivial).mp here⟩
    · rintro ⟨knows, passes⟩
      exact (filtered rfl item knows trivial).mpr passes

theorem Tracks.motion (tracks : view.Tracks handler listed heard)
    (distinct : (listed.map handler.key).Nodup)
    (settled : ∀ before, permit.flush before → before.phase = .active →
      before.settings.sortProperty.isSome → ∀ item ∈ listed, heard item)
    (motion : Motion handler listed permit view after effects) :
    after.Tracks handler listed heard := by
  have sound := tracks.sound.motion motion
  cases motion with
  | set update => exact ⟨sound, tracks.agrees⟩
  | addEmptyFilter =>
      refine ⟨sound, fun there k => ?_⟩
      have same : ListView.passes handler view.addEmptyFilter.2 = view.passes handler := by
        funext item
        exact congrArg (Filter.passAll · handler item) (compiled_add view.filters)
      rw [same]
      exact tracks.agrees there k
  | filter filters =>
      have filtered : (ListView.refilter handler { view with filters }).Tracks handler listed heard :=
        Tracks.refilter tracks.sound.rows.toIndexed tracks.sound.changes tracks.sound.silent
          fun there k => (tracks.agrees there k).fits
      exact ⟨sound, filtered.agrees⟩
  | activate paused inactive =>
      obtain ⟨empty, quiet⟩ := tracks.sound.silent inactive
      have fits (k : Nat) : Fits (holder handler.key listed k) (view.changes.waiting k)
          (holder handler.key (view.rows.insertAll handler listed).known k) := by
        rw [quiet, insertAll_holder tracks.sound.rows.toIndexed empty distinct]
        rfl
      have taken := tracks.sound.rows.toIndexed.insertAll listed
      have filtered : (ListView.refilter handler { view with
          phase := if paused then .paused else .active
          rows := view.rows.insertAll handler listed }).Tracks handler listed heard := by
        refine Tracks.refilter taken tracks.sound.changes (fun absent => ?_) fun _ => fits
        cases paused <;> cases absent
      refine ⟨sound, fun _ => ?_⟩
      cases paused with
      | true => exact filtered.agrees (by rintro ⟨⟩)
      | false => exact filtered.agrees (by rintro ⟨⟩)
  | pause =>
      refine ⟨sound, ?_⟩
      unfold ListView.pause
      split
      · rename_i active
        exact fun _ => tracks.agrees (by simp [active])
      · exact tracks.agrees
  | unpause paused => exact ⟨sound, fun _ => tracks.agrees (by simp [paused])⟩
  | flush allowed =>
      refine ⟨sound, ?_⟩
      by_cases runs : ∃ property, view.Ready property
      · obtain ⟨property, ready⟩ := runs
        rw [flush_ready handler ready]
        intro _ k
        refine (passed_agrees tracks.sound (tracks.agrees ready.there) ?_ property k).mono ?_
        · exact settled view allowed ready.active ready.sortable
        · exact fun item _ _ => ⟨trivial, rfl⟩
      · rw [flush_idle handler (not_exists.mp runs)]
        exact tracks.agrees
  | stop => exact ⟨sound, fun there => absurd rfl there⟩
  | reload =>
      by_cases absent : view.phase = .inactive
      · simpa only [ListView.reload, absent, ↓reduceIte] using tracks
      · have cleared := Rows.clearItems_indexed handler.key view.rows
        have fits (k : Nat) : Fits (holder handler.key listed k) (({} : Changes Ref).waiting k)
            (holder handler.key (view.rows.clearItems.insertAll handler listed).known k) :=
          insertAll_holder cleared rfl distinct k
        have filtered : (ListView.refilter handler { view with
            changes := {}
            rows := view.rows.clearItems.insertAll handler listed }).Tracks handler listed heard :=
          Tracks.refilter (cleared.insertAll listed) Changes.Valid.start
            (fun there => absurd there absent) fun _ => fits
        simp only [ListView.reload, absent, ↓reduceIte] at sound ⊢
        exact ⟨sound, filtered.agrees⟩

/-- What a view hears of an item is a matter of the key of that item only. -/
theorem Tracks.hear (tracks : view.Tracks handler listed heard) (kind : ChangeKind) (item : Ref)
    (changed : PropertySet) {others : List Ref} {word : Ref → Prop}
    (here : Fits (holder handler.key listed (handler.key item))
        (view.changes.waiting (handler.key item))
        (holder handler.key view.rows.known (handler.key item)) →
      Fits (holder handler.key others (handler.key item))
        (some (Changes.reported (view.changes.waiting (handler.key item)) item kind changed))
        (holder handler.key view.rows.known (handler.key item)))
    (elsewhere : ∀ k, k ≠ handler.key item →
      holder handler.key others k = holder handler.key listed k)
    (still : ∀ other, handler.key other ≠ handler.key item → word other → heard other) :
    (view.hear handler kind item changed).Tracks handler others word := by
  have sound := tracks.sound.hear kind item changed
  unfold ListView.hear at sound ⊢
  by_cases absent : view.phase = .inactive
  · rw [if_pos absent] at sound ⊢
    exact ⟨sound, fun there => absurd absent there⟩
  · rw [if_neg absent] at sound ⊢
    refine ⟨sound, fun _ k => ?_⟩
    have agrees := tracks.agrees absent k
    simp only [Changes.waiting_report]
    by_cases same : k = handler.key item
    · subst same
      rw [if_pos rfl]
      exact agrees.hear _ _ (here agrees.fits)
    · rw [if_neg same, elsewhere k same]
      refine agrees.mono fun other lists said => ⟨?_, rfl⟩
      have keyed := holder_key lists
      exact still other (fun there => same (keyed.symm.trans there)) said

theorem Tracks.hearAll (tracks : view.Tracks handler listed heard)
    (distinct : (listed.map handler.key).Nodup) {items : List Ref}
    (present : ∀ item ∈ items, item ∈ listed) (changed : PropertySet) :
    (view.hearAllUpdated handler items changed).Tracks handler listed
      (fun item => heard item ∨ item ∈ items) := by
  unfold hearAllUpdated
  induction items generalizing view heard with
  | nil => simpa using tracks
  | cons item rest ih =>
      have lists := (holder_eq_some distinct).mpr ⟨present item List.mem_cons_self, rfl⟩
      have first : (view.hearUpdated handler item changed).Tracks handler listed
          (fun other => heard other ∨ other = item) := by
        refine tracks.hear .update item changed (fun fits => ?_) (fun _ _ => rfl) ?_
        · rw [lists] at fits ⊢
          exact fits.hear_update changed
        · rintro other different (word | rfl)
          · exact word
          · exact absurd rfl different
      have later := ih first fun other member => present other (List.mem_cons_of_mem item member)
      simpa only [List.foldl_cons, or_assoc, List.mem_cons] using later

end ListView

namespace Scene

variable {allowed : Scene Ref → Prop} {scene first last : Scene Ref}

structure Tracked (scene : Scene Ref) : Prop where
  distinct : (scene.listed.map scene.handler.key).Nodup
  tracks : scene.view.Tracks scene.handler scene.listed (¬ scene.unheard ·)

theorem Tracked.start (handler : Handler Ref) {listed : List Ref}
    (distinct : (listed.map handler.key).Nodup) : (Scene.start handler listed).Tracked :=
  ⟨distinct, ListView.Tracks.start⟩

theorem Tracked.no_update (tracked : scene.Tracked) (there : scene.view.phase ≠ .inactive)
    {item : Ref} (fresh : scene.handler.key item ∉ scene.listed.map scene.handler.key)
    (change : Change Ref) (waits : scene.view.changes.waiting (scene.handler.key item) = some change) :
    change.kind ≠ .update := by
  intro update
  have fits := (tracked.tracks.agrees there (scene.handler.key item)).fits
  rw [holder_eq_none.mpr fresh, waits] at fits
  simp only [Fits, update] at fits
  cases fits.1

theorem Tracked.act (tracked : scene.Tracked) {act : ViewAct}
    (permits : scene.Permits Heard act) : (scene.act act).Tracked where
  distinct := tracked.distinct
  tracks := by
    have settled (before : ListView Ref)
        (flushes : (scene.view.permit scene.handler act).flush before)
        (active : before.phase = .active) (sorted : before.settings.sortProperty.isSome) :
        ∀ item ∈ scene.listed, ¬ scene.unheard item :=
      permits before flushes ⟨active, sorted⟩
    exact (ListView.act_motions act).keep
      (ListView.Tracks scene.handler scene.listed (¬ scene.unheard ·))
      (fun _ _ _ motion tracks => tracks.motion tracked.distinct settled motion) tracked.tracks

theorem Tracked.step (tracked : first.Tracked) (step : Step Heard first last) : last.Tracked := by
  obtain ⟨distinct, tracks⟩ := tracked
  cases step with
  | change handler listed touched alike same =>
      have apart : (listed.map first.handler.key).Nodup := (same.map _).nodup_iff.mpr distinct
      refine ⟨alike.key ▸ apart, alike.key ▸ tracks.sound, fun there k => ?_⟩
      -- Filters may answer otherwise now, but only for items that were touched; of these there was no word.
      have listing : holder first.handler.key listed k = holder first.handler.key first.listed k :=
        holder_congr distinct apart fun item _ => same.mem_iff
      dsimp only [Scene.change]
      rw [alike.key, listing]
      refine (tracks.agrees there k).mono fun item _ word => ?_
      simp only [not_or, not_exists] at word
      exact ⟨word.1, alike.passAll _ word.2⟩
  | add item listed fresh more =>
      have apart : (listed.map first.handler.key).Nodup := by
        rw [(more.map _).nodup_iff, List.map_cons, List.nodup_cons]
        exact ⟨fresh, distinct⟩
      refine ⟨apart, tracks.hear .add item [] (fun fits => ?_) (fun k different => ?_) ?_⟩
      · have lists := (holder_eq_some apart).mpr ⟨more.mem_iff.mpr List.mem_cons_self, rfl⟩
        rw [holder_eq_none.mpr fresh] at fits
        dsimp only [Scene.add]
        rw [lists]
        exact fits.hear_add item
      · exact holder_cons_congr distinct apart more different
      · intro other different word unheard
        exact word ⟨unheard, fun same => different (congrArg _ same)⟩
  | remove item listed fewer =>
      have apart := distinct
      rw [(fewer.map _).nodup_iff, List.map_cons, List.nodup_cons] at apart
      refine ⟨apart.2, tracks.hear .remove item [] (fun _ => ?_) (fun k different => ?_) ?_⟩
      · dsimp only [Scene.remove]
        rw [holder_eq_none.mpr apart.1]
        exact Fits.hear_remove _ item
      · exact (holder_cons_congr apart.2 distinct fewer different).symm
      · exact fun other _ word => word
  | update items changed present =>
      have heard := tracks.hearAll distinct present changed
      refine ⟨distinct, heard.sound, fun there k => (heard.agrees there k).mono ?_⟩
      intro item _ word
      refine ⟨?_, rfl⟩
      by_cases said : item ∈ items
      · exact .inr said
      · exact .inl fun unheard => word ⟨unheard, said⟩
  | act act permits => exact Tracked.act ⟨distinct, tracks⟩ permits

theorem Run.tracked (run : Run Heard first last) (tracked : first.Tracked) : last.Tracked :=
  run.keep (fun _ _ step tracked => tracked.step step) tracked

end Scene

open Scene

/-- After any run in which there was word of every change before a flush, and then a flush that
finds the view active and sorted: the view knows exactly the items of the source, and has in it
exactly those that pass its filters now, as if it were filtered anew. -/
theorem membership_exact {handler : Handler Ref} {listed : List Ref} {scene : Scene Ref}
    (distinct : (listed.map handler.key).Nodup)
    (run : Run Heard (Scene.start handler listed) scene) (heard : scene.Heard) (act : ViewAct) :
    let after := scene.act act
    (scene.view.flushing scene.handler act).isSome → after.Flushable →
      (∀ item, item ∈ after.view.rows.items.map (·.2) ↔ item ∈ after.listed) ∧
      (∀ item, item ∈ after.view.rows.matching ↔ item ∈ after.view.rows.items.map (·.2) ∧
        Filter.passAll after.view.filters.compiled after.handler item = true) ∧
      ∀ item, item ∈ after.view.rows.matching ↔
        item ∈ (after.view.rows.refilter after.handler after.view.filters.compiled).matching := by
  intro after flushes flushable
  obtain ⟨before, flushes⟩ := Option.isSome_iff_exists.mp flushes
  have tracked := run.tracked (Tracked.start handler distinct)
  have flushed : after = _ := act_eq flushes (run.timed ListView.Timed.start)
  have motions : ListView.Motions scene.handler scene.listed ⟨fun _ => False, False⟩ scene.view
      before [] := ListView.flushing_motions flushes
  have reached : before.Tracks scene.handler scene.listed (¬ scene.unheard ·) :=
    motions.keep _ (fun _ _ _ motion tracks =>
      tracks.motion tracked.distinct (fun _ (never : False) => never.elim) motion) tracked.tracks
  have members : ∀ item, (item ∈ after.view.rows.known ↔ item ∈ after.listed) ∧
      (item ∈ after.view.rows.matching ↔
        item ∈ after.view.rows.known ∧ after.view.passes after.handler item = true) := by
    rw [flushed] at flushable ⊢
    exact ListView.members_of_agrees reached.sound.flush tracked.distinct
      (reached.flush_agrees flushable.1 flushable.2 heard)
  refine ⟨fun item => (members item).1, fun item => (members item).2, fun item => ?_⟩
  rw [(members item).2]
  exact List.mem_filter.symm

def Entry.sampleScene : Scene Nat :=
  let after := fun id => if id = 2 then 7 else 10 - id
  let filter : Filter :=
    { target := .property 2
      method := .exact
      pattern := .text "tag7"
      text := .equals "tag7".toList
      number := none }
  let begun := (Scene.start (Entry.tagged fun id => 10 - id) [1, 2]).act
    (.configure { sortProperty := some 2, maxCount := some 5 })
  let flushed := ((begun.act (.command .newFilter)).act (.setFilter 1 (some filter))).act
    (.command .flush)
  let changed := (flushed.add 3 [1, 2, 3]).change (Entry.tagged after) [1, 2, 3]
    (fun ref id => after ref ≠ 10 - ref ∧ Entry.properties.Has id)
  (changed.update [2] [2, 4, 5]).remove 1 [2, 3]

theorem sampleScene_members :
    let scene := Entry.sampleScene
    let after := scene.act (.command .flush)
    scene.Heard ∧ after.Flushable ∧
      (∀ item, item ∈ after.view.rows.items.map (·.2) ↔ item ∈ after.listed) ∧
      (∀ item, item ∈ after.view.rows.matching ↔ item ∈ after.view.rows.items.map (·.2) ∧
        Filter.passAll after.view.filters.compiled after.handler item = true) ∧
      ∀ item, item ∈ after.view.rows.matching ↔
        item ∈ (after.view.rows.refilter after.handler after.view.filters.compiled).matching := by
  intro scene after
  have run : Run Heard (Scene.start (Entry.tagged fun id => 10 - id) [1, 2]) scene := by
    refine .next ?_ (.remove 1 [2, 3] (by decide))
    refine .next ?_ (.update [2] [2, 4, 5] (by decide))
    refine .next ?_ (.change _ _ _ (Entry.tagged_alike (fun id => 10 - id) _) (.refl _))
    refine .next ?_ (.add 3 [1, 2, 3] (by decide) (by decide))
    refine .next (.next (.next (.next .rest (.act _ ?_)) (.act _ ?_)) (.act _ ?_)) (.act _ ?_)
    all_goals exact fun _ _ _ _ _ never => never
  have heard : scene.Heard := by
    intro item lists unheard
    obtain ⟨⟨never, _⟩ | ⟨id, different, _⟩, other⟩ := unheard
    · exact never
    · have second : item = 2 ∨ item = 3 := by simpa [scene, Entry.sampleScene, remove] using lists
      rcases second with rfl | rfl
      · exact other (by decide)
      · exact different rfl
  have flushable : after.Flushable := ⟨by decide +kernel, by decide +kernel⟩
  exact ⟨heard, flushable, membership_exact (by decide) run heard (.command .flush) rfl flushable⟩

end LiveList
