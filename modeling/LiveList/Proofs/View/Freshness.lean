import LiveList.Proofs.View.Retelling

/-!
Whether the properties in the reader's copy are as they are. Between flushes the copy has every known
item that was told as it is, up to properties that a waiting change accounts for: an update that names
them, or a change that is more than an update. A flush tells what an update names, if the row is in
the view already; of a row that is replaced, or comes back, it tells nothing but the place.
-/

namespace LiveList

variable {Ref : Type}

namespace ListView

variable {handler : Handler Ref} {listed : List Ref} {heard : Ref → Prop}
  {unnamed : Ref → PropertyId → Prop} {reread : Prop} {view after : ListView Ref}
  {replica : Replica} {permit : Permit Ref} {effects : List ViewEffect} {property : PropertyId}

/-- Of every known item that was told the copy has each property as it is, unless the view may be
behind with it. -/
def Carries (handler : Handler Ref) (unnamed : Ref → PropertyId → Prop) (view : ListView Ref)
    (replica : Replica) : Prop :=
  ∀ item ∈ view.rows.known, handler.key item ∈ view.rows.window → ∀ property ∈ handler.table,
    Assoc.get? (replica.properties (handler.key item)) property.name =
        some (handler.propertyJson item property) ∨
      view.Loose handler.key unnamed property.id item

/-- The copy keeps up with the view, unless the source was read anew since the last flush. -/
def Abreast (handler : Handler Ref) (unnamed : Ref → PropertyId → Prop) (reread : Prop)
    (view : ListView Ref) (replica : Replica) : Prop :=
  reread ∧ view.rows.unsorted = true ∨ view.Carries handler unnamed replica

theorem Carries.loosen (carries : view.Carries handler unnamed replica) {reading : Handler Ref}
    {missing : Ref → PropertyId → Prop} (key : reading.key = handler.key)
    (table : reading.table = handler.table) (rows : after.rows = view.rows)
    (looser : ∀ id, ∀ row ∈ view.rows.known, view.Loose handler.key unnamed id row →
      after.Loose reading.key missing id row)
    (same : ∀ property ∈ handler.table, ∀ row, ¬ after.Loose reading.key missing property.id row →
      reading.propertyJson row property = handler.propertyJson row property) :
    after.Carries reading missing replica := by
  intro item known told property inside
  rw [rows] at known told
  rw [key] at told ⊢
  rw [table] at inside
  by_cases loose : after.Loose handler.key missing property.id item
  · exact .inr loose
  · have firm : ¬ after.Loose reading.key missing property.id item := key ▸ loose
    rcases carries item known told property inside with has | behind
    · rw [same property inside item firm]
      exact .inl has
    · exact absurd (looser property.id item known behind) firm

theorem Abreast.hear (abreast : view.Abreast handler unnamed reread replica)
    (sound : view.Sound handler.key) {kind : ChangeKind} {item : Ref} {changed : PropertySet}
    {fewer : Ref → PropertyId → Prop}
    (named : ∀ row id, unnamed row id → fewer row id ∨
      handler.key row = handler.key item ∧ (kind = .update → id ∈ changed))
    (fresh : view.phase ≠ .inactive → kind = .add → ∀ change,
      view.changes.waiting (handler.key item) = some change → change.kind ≠ .update) :
    (view.hear handler kind item changed).Abreast handler fewer reread replica := by
  have rows := hear_rows handler view kind item changed
  rcases abreast with ⟨again, unsorted⟩ | carries
  · exact .inl ⟨again, rows ▸ unsorted⟩
  · refine .inr (carries.loosen rfl rfl rows (fun id row known loose => ?_) fun _ _ _ _ => rfl)
    have there : view.phase ≠ .inactive := by
      intro absent
      rw [(sound.silent absent).1] at known
      cases known
    exact loose.hear there (named row id) (fresh there)

theorem Abreast.hearAll (abreast : view.Abreast handler unnamed reread replica)
    (sound : view.Sound handler.key) (items : List Ref) (changed : PropertySet) :
    (view.hearAllUpdated handler items changed).Abreast handler
      (fun other id => unnamed other id ∧ ¬ (other ∈ items ∧ id ∈ changed)) reread replica := by
  refine (hearAll_keep handler (fun view unnamed => view.Sound handler.key ∧
    view.Abreast handler unnamed reread replica) ?_ ⟨sound, abreast⟩ items).2
  intro view unnamed item fewer kept named
  refine ⟨kept.1.hear .update item changed, kept.2.hear kept.1 named fun _ => ?_⟩
  rintro ⟨⟩

/-- Whatever the owner does but flush, the copy keeps up with the view, if a request to read the
source anew is taken note of. -/
theorem Abreast.motion (abreast : view.Abreast handler unnamed reread replica)
    (followed : view.Followed handler.key replica) (still : ∀ view, ¬ permit.flush view)
    (reads : permit.reload → reread) (motion : Motion handler listed permit view after effects) :
    after.Abreast handler unnamed reread (replica.followAll effects) := by
  cases motion with
  | set | addEmptyFilter => exact abreast
  | filter filters =>
      rcases abreast with ⟨again, _⟩ | carries
      · exact .inl ⟨again, rfl⟩
      · exact .inr carries
  | activate paused inactive =>
      -- Nothing was told before, so there is nothing to keep up with.
      have told := insertAll_told handler view.rows listed (followed.silent inactive)
      right
      intro item _ window
      have empty : [] = (view.activate handler listed paused).view.rows.window := by
        cases paused <;> exact told.ids
      rw [← empty] at window
      cases window
  | pause =>
      unfold ListView.pause
      split <;> exact abreast
  | unpause paused =>
      rcases abreast with ⟨again, _⟩ | carries
      · exact .inl ⟨again, rfl⟩
      · exact .inr carries
  | flush allowed => exact absurd allowed (still view)
  | stop =>
      right
      intro item known
      cases known
  | reload allowed =>
      unfold ListView.reload
      split
      · exact abreast
      · exact .inl ⟨reads allowed, rfl⟩

theorem within_motion (within : replica.Within handler.table)
    (motion : Motion handler listed permit view after effects) :
    (replica.followAll effects).Within handler.table := by
  cases motion with
  | set | addEmptyFilter | filter | pause | unpause | reload => exact within
  | activate =>
      intro row member
      cases member
  | flush =>
      by_cases runs : ∃ property, view.Ready property
      · obtain ⟨property, ready⟩ := runs
        rw [followAll_flush ready]
        exact within_passed within
      · rw [flush_idle handler (not_exists.mp runs)]
        exact within
  | stop =>
      dsimp only [ListView.stop]
      split <;> exact within

section Window

variable (tracks : view.Tracks handler listed heard) (there : view.phase ≠ .inactive)
  (window : view.rows.window = view.shown.map handler.key)
  (within : replica.Within handler.table) (proper : handler.table.Proper)

theorem shown_sublist : view.shown.Sublist view.rows.matching :=
  (List.drop_sublist _ _).trans (List.take_sublist _ _)

include tracks there in
/-- A row in the view is the known item. -/
theorem shown_known {item : Ref} (member : item ∈ view.shown) : item ∈ view.rows.known :=
  holder_mem ((tracks.agrees there (handler.key item)).inside item
    ((holder_eq_some tracks.sound.rows.distinct).mpr ⟨shown_sublist.subset member, rfl⟩))

include tracks there window within proper in
theorem Fresh.carries (fresh : view.Fresh handler replica) : view.Carries handler unnamed replica := by
  intro item known told property inside
  rw [window] at told
  obtain ⟨row, member, same⟩ := List.mem_map.mp told
  have distinct := tracks.sound.rows.known_distinct
  have first := (holder_eq_some distinct).mpr ⟨shown_known tracks there member, same⟩
  have second := (holder_eq_some distinct).mpr ⟨known, rfl⟩
  obtain rfl : row = item := Option.some.inj (first.symm.trans second)
  exact .inl ((within.has_iff proper).mp (fresh row member) property inside)

include tracks there window within proper in
theorem Carries.fresh (carries : view.Carries handler unnamed replica)
    (firm : ∀ item ∈ view.shown, ∀ id, ¬ view.Loose handler.key unnamed id item) :
    view.Fresh handler replica := by
  intro item member
  have told : handler.key item ∈ view.rows.window := window ▸ List.mem_map.mpr ⟨item, member, rfl⟩
  refine (within.has_iff proper).mpr fun property inside => ?_
  rcases carries item (shown_known tracks there member) told property inside with has | loose
  · exact has
  · exact absurd loose (firm item member property.id)

end Window

/-- No row that was told waits to be replaced, or to come back into the view by an update. -/
def Steady (key : Ref → Nat) (view : ListView Ref) : Prop :=
  ∀ k ∈ view.rows.window, ∀ change, view.changes.waiting k = some change →
    change.kind ≠ .add ∧ (change.kind = .update → k ∈ view.rows.matching.map key)

/-- A row that was told and stays is a known item of the source, and only an update waits for it. -/
theorem Steady.stays (steady : view.Steady handler.key)
    (tracks : view.Tracks handler listed heard) (there : view.phase ≠ .inactive) {item : Ref}
    (member : item ∈ view.passWindow handler property)
    (told : handler.key item ∈ view.rows.window) :
    item ∈ view.rows.known ∧ item ∈ listed ∧
      ∀ change, view.changes.waiting (handler.key item) = some change →
        change.kind = .update ∧ handler.key item ∈ view.rows.matching.map handler.key := by
  obtain ⟨fits, shows, _⟩ := tracks.agrees there (handler.key item)
  have stays : ((view.passEnd handler property).cell handler.key (handler.key item)).shown =
      some item :=
    (holder_eq_some (tracks.sound.passEnd property).distinct).mpr
      ⟨passWindow_sublist.subset member, rfl⟩
  rw [tracks.sound.passEnd_cell property] at stays
  cases waits : view.changes.waiting (handler.key item) with
  | none =>
      rw [waits] at fits stays
      have knows := shows item stays
      refine ⟨holder_mem knows, holder_mem (fits.symm.trans knows), ?_⟩
      rintro change ⟨⟩
  | some change =>
      obtain ⟨replaced, returns⟩ := steady _ told change waits
      rw [waits] at fits stays
      unfold Fits at fits
      cases kind : change.kind with
      | add => exact absurd kind replaced
      | remove =>
          rw [Cell.settle, Cell.turn_remove kind] at stays
          cases stays
      | update =>
          simp only [kind] at fits
          have inside := returns kind
          obtain ⟨row, shown⟩ := Option.ne_none_iff_exists'.mp fun hidden =>
            holder_eq_none.mp hidden inside
          -- The row keeps its item, which is the one that is known.
          have knows := shows row shown
          obtain rfl : change.item = row := Option.some.inj (fits.2.symm.trans knows)
          have same : change.item = item := by
            rw [Cell.settle, Cell.turn_update kind fits.2] at stays
            rw [show (view.cell handler.key (handler.key item)).shown = some change.item from
              shown] at stays
            split at stays
            · exact Option.some.inj stays
            · cases stays
          refine ⟨same ▸ holder_mem knows, same ▸ holder_mem fits.1, ?_⟩
          rintro _ ⟨⟩
          exact ⟨kind, inside⟩

theorem Carries.accounted (carries : view.Carries handler unnamed replica)
    (tracks : view.Tracks handler listed heard) (there : view.phase ≠ .inactive)
    (named : ∀ item ∈ listed, ∀ id, ¬ unnamed item id) (steady : view.Steady handler.key) :
    view.Accounted handler property replica := by
  intro item member told other inside
  obtain ⟨known, lists, updates⟩ := steady.stays tracks there member told
  rcases carries item known told other inside with has | missing | ⟨change, waits, names⟩
  · exact .inl has
  · exact absurd missing (named item lists other.id)
  · obtain ⟨update, shown⟩ := updates change waits
    exact .inr ⟨shown, change, waits, update, names update⟩

end ListView

open ListView

namespace Scene

variable {scene first last : Scene Ref}

def Fresh (scene : Scene Ref) : Prop := scene.view.Fresh scene.handler scene.replica

/-- A flush would tell each property in which the copy of a row that stays is behind. -/
def Accounted (scene : Scene Ref) : Prop :=
  ∀ property, scene.view.Ready property →
    scene.view.Accounted scene.handler property scene.replica

/-- The source was not read anew since the last flush, and no row that was told waits to be replaced
or to come back by an update. -/
def Steady (scene : Scene Ref) : Prop :=
  ¬ scene.reread ∧ scene.view.Steady scene.handler.key

def Candid (scene : Scene Ref) : Prop := scene.Named ∧ scene.Accounted

structure Reading (scene : Scene Ref) : Prop where
  tracked : scene.Tracked
  followed : scene.view.Followed scene.handler.key scene.replica
  within : scene.replica.Within scene.handler.table
  abreast : scene.view.Abreast scene.handler scene.unnamed scene.reread scene.replica

theorem Reading.start (handler : Handler Ref) {listed : List Ref}
    (distinct : (listed.map handler.key).Nodup) : (Scene.start handler listed).Reading where
  tracked := Tracked.start handler distinct
  followed := Followed.start
  within := by
    intro row member
    cases member
  abreast := by
    right
    intro item known
    cases known

/-- Up to its flush an act of the owner leaves the copy as it is, and the view fits the source. -/
theorem Reading.flushing (reading : scene.Reading) {act : ViewAct} {before : ListView Ref}
    (flushes : scene.view.flushing scene.handler act = some before) :
    Reading { scene with view := before } := by
  have motions : ListView.Motions scene.handler scene.listed ⟨fun _ => False, False⟩ scene.view
      before [] := ListView.flushing_motions flushes
  obtain ⟨tracks, followed, abreast⟩ := motions.follow
    (fun view replica => view.Tracks scene.handler scene.listed (¬ scene.unheard ·) ∧
      view.Followed scene.handler.key replica ∧
      view.Abreast scene.handler scene.unnamed scene.reread replica)
    (fun _ _ _ _ motion kept =>
      ⟨kept.1.motion reading.tracked.distinct (fun _ (never : False) => never.elim) motion,
        kept.2.1.motion rfl motion,
        kept.2.2.motion kept.2.1 (fun _ (never : False) => never)
          (fun (never : False) => never.elim) motion⟩)
    ⟨reading.tracked.tracks, reading.followed, reading.abreast⟩
  exact ⟨⟨reading.tracked.distinct, tracks⟩, followed, reading.within, abreast⟩

theorem Reading.fresh_iff (reading : scene.Reading) (proper : scene.handler.table.Proper)
    {property : PropertyId} (ready : scene.view.Ready property) :
    (scene.view.flush scene.handler).view.Fresh scene.handler
        (scene.replica.followAll (scene.view.flush scene.handler).effects) ↔
      scene.view.Accounted scene.handler property scene.replica := by
  rw [ListView.flush_ready _ ready, followAll_flush ready]
  exact fresh_passed_iff proper reading.tracked.tracks.sound (reading.followed.told ready.there)
    reading.within

/-- Where there is no news, the copy is fresh. -/
theorem Reading.quiet_fresh (reading : scene.Reading) (proper : scene.handler.table.Proper)
    (named : scene.Named) (there : scene.view.phase ≠ .inactive)
    (quiet : scene.view.hasNews = false) : scene.Fresh := by
  simp only [hasNews, Bool.or_eq_false_iff, Bool.not_eq_eq_eq_not, Bool.not_false] at quiet
  have tracks := reading.tracked.tracks
  have current := reading.followed.current there quiet.2 quiet.1.2
  have none := tracks.sound.changes.isEmpty_iff.mp quiet.1.1
  rcases reading.abreast with ⟨_, unsorted⟩ | carries
  · rw [quiet.2] at unsorted
    cases unsorted
  · refine carries.fresh tracks there current.window reading.within proper ?_
    rintro item member id (missing | ⟨change, waits, _⟩)
    · have fits := (tracks.agrees there (scene.handler.key item)).fits
      have knows := (holder_eq_some tracks.sound.rows.known_distinct).mpr
        ⟨shown_known tracks there member, rfl⟩
      rw [none] at fits
      exact named item (holder_mem (fits.symm.trans knows)) id missing
    · rw [none] at waits
      cases waits

theorem Reading.flush_abreast (reading : scene.Reading) (proper : scene.handler.table.Proper)
    {heard : Ref → Prop}
    (tracks : (scene.view.flush scene.handler).view.Tracks scene.handler scene.listed heard)
    (accounted : Flushable scene → scene.Accounted) :
    (scene.view.flush scene.handler).view.Abreast scene.handler scene.unnamed
      (scene.reread ∧ (scene.view.flush scene.handler).view.rows.unsorted = true)
      (scene.replica.followAll (scene.view.flush scene.handler).effects) := by
  by_cases runs : ∃ property, scene.view.Ready property
  · obtain ⟨property, ready⟩ := runs
    have flushable : Flushable scene := ⟨ready.active, ready.sortable⟩
    have fresh := (reading.fresh_iff proper ready).mpr (accounted flushable property ready)
    rw [ListView.flush_ready _ ready, followAll_flush ready] at fresh ⊢
    rw [ListView.flush_ready _ ready] at tracks
    exact .inr (fresh.carries tracks ready.there (current_passed rfl).window
      (within_passed reading.within) proper)
  · rw [ListView.flush_idle _ (not_exists.mp runs)]
    rcases reading.abreast with ⟨again, unsorted⟩ | carries
    · exact .inl ⟨⟨again, unsorted⟩, unsorted⟩
    · exact .inr carries

theorem Reading.act (reading : scene.Reading) (proper : scene.handler.table.Proper)
    (timed : scene.view.Timed) {act : ViewAct} (permits : scene.Permits Candid act)
    (heard : scene.Permits Heard act) : (scene.act act).Reading := by
  have tracked := reading.tracked.act heard
  have motions : ListView.Motions scene.handler scene.listed (scene.view.permit scene.handler act)
      scene.view (scene.act act).view (scene.view.act scene.handler scene.listed act).effects :=
    ListView.act_motions act
  refine ⟨tracked, reading.followed.motions rfl motions, ?_, ?_⟩
  · exact motions.follow (fun _ replica => replica.Within scene.handler.table)
      (fun _ _ _ _ motion within => within_motion within motion) reading.within
  · cases flushes : scene.view.flushing scene.handler act with
    | some before =>
        have reached := reading.flushing flushes
        have performed := act_eq flushes timed
        rw [performed] at tracked ⊢
        have abreast := reached.flush_abreast proper tracked.tracks
          fun flushable => (permits before flushes flushable).2
        rcases abreast with ⟨⟨again, _⟩, unsorted⟩ | carries
        · exact .inl ⟨⟨.inr again, unsorted⟩, unsorted⟩
        · exact .inr carries
    | none =>
        have both := motions.follow
          (fun view replica => view.Followed scene.handler.key replica ∧
            view.Abreast scene.handler scene.unnamed (act = .command .reload ∨ scene.reread) replica)
          (fun _ _ _ _ motion kept => ⟨kept.1.motion rfl motion,
            kept.2.motion kept.1 (fun view flushed => by
              rw [show scene.view.flushing scene.handler act = some view from flushed] at flushes
              cases flushes) .inl motion⟩)
          ⟨reading.followed, reading.abreast.imp_left fun kept => ⟨.inr kept.1, kept.2⟩⟩
        rcases both.2 with ⟨again, unsorted⟩ | carries
        · exact .inl ⟨⟨again, unsorted⟩, unsorted⟩
        · exact .inr carries

theorem Reading.step (reading : first.Reading) (proper : first.handler.table.Proper)
    (timed : first.view.Timed) (covered : ∀ item, first.unheard item → ∃ id, first.unnamed item id)
    (step : Step Candid first last) (tracked : last.Tracked) : last.Reading := by
  obtain ⟨before, followed, within, abreast⟩ := reading
  have sound := before.tracks.sound
  cases step with
  | change handler listed touched alike same =>
      refine ⟨tracked, alike.key ▸ followed, alike.table ▸ within, ?_⟩
      rcases abreast with kept | carries
      · exact .inl kept
      · refine .inr (carries.loosen alike.key alike.table rfl (fun id row _ loose => ?_) ?_)
        · rcases loose with missing | waits
          · exact .inl (.inl missing)
          · exact .inr (alike.key.symm ▸ waits)
        · intro property inside row firm
          exact alike.propertyJson inside fun touch => firm (.inl (.inr touch))
  | add item listed fresh more =>
      exact ⟨tracked, followed.hear .add item [], within,
        abreast.hear sound (unnamed_add item) fun there _ => before.no_update there fresh⟩
  | remove item listed fewer =>
      refine ⟨tracked, followed.hear .remove item [], within, abreast.hear sound ?_ ?_⟩
      · exact fun row id missing => .inl missing
      · rintro _ ⟨⟩
  | update items changed present =>
      exact ⟨tracked, followed.hearAll items changed, within, abreast.hearAll sound items changed⟩
  | act act permits =>
      exact Reading.act ⟨before, followed, within, abreast⟩ proper timed permits
        fun _ flushes flushable => Named.heard (permits _ flushes flushable).1 covered

theorem Run.reading {handler : Handler Ref} {listed : List Ref} (proper : handler.table.Proper)
    (distinct : (listed.map handler.key).Nodup)
    (run : Run Candid (Scene.start handler listed) scene) : scene.Reading := by
  have start : ∀ item, (Scene.start handler listed).unheard item →
      ∃ id, (Scene.start handler listed).unnamed item id := fun _ never => never.elim
  induction run with
  | rest => exact Reading.start handler distinct
  | next run step ih =>
      have heard := (run.next step).heard (fun _ candid => candid.1) start
      refine ih.step ?_ (run.timed Timed.start) (run.covered start) step
        (heard.tracked (Tracked.start handler distinct))
      exact run.fixed.2.symm ▸ proper

end Scene

open Scene

/-- After a run in which every flush told all that had changed, and then a flush for which the source
has named all that changed: the copy has every row in the window with all its properties as they are,
exactly if this flush, too, tells each property in which the copy of a row that stays is behind. It
does if the source was not read anew since the last flush, and no row that was told waits to be
replaced or to come back by an update. -/
theorem fresh_iff_accounted {handler : Handler Ref} {listed : List Ref} {scene : Scene Ref}
    (proper : handler.table.Proper) (distinct : (listed.map handler.key).Nodup)
    (run : Run Candid (Scene.start handler listed) scene) (act : ViewAct) {before : ListView Ref}
    (flushes : scene.view.flushing scene.handler act = some before) :
    let flushed : Scene Ref := { scene with view := before }
    let after := scene.act act
    flushed.Named → after.Flushable →
      (after.Fresh ↔ flushed.Accounted) ∧ (flushed.Steady → flushed.Accounted) := by
  intro flushed after named flushable
  have reading : Reading flushed := (run.reading proper distinct).flushing flushes
  have table : scene.handler.table.Proper := run.fixed.2.symm ▸ proper
  have performed : after = _ := act_eq flushes (run.timed Timed.start)
  rw [performed] at flushable ⊢
  have quiet := ListView.flush_quiet flushable.1 flushable.2
  by_cases runs : ∃ property, before.Ready property
  · obtain ⟨property, ready⟩ := runs
    have iff := reading.fresh_iff table ready
    have only (other : PropertyId) (also : before.Ready other) : property = other :=
      Option.some.inj (ready.sorted.symm.trans also.sorted)
    refine ⟨⟨fun fresh other also => ?_, fun accounted => ?_⟩, fun steady other also => ?_⟩
    · obtain rfl := only other also
      exact iff.mp fresh
    · exact iff.mpr (accounted property ready)
    · rcases reading.abreast with ⟨again, _⟩ | carries
      · exact absurd again steady.1
      · exact carries.accounted reading.tracked.tracks ready.there named steady.2
  · have idle := not_exists.mp runs
    rw [ListView.flush_idle _ idle] at flushable quiet ⊢
    have there : before.phase ≠ .inactive := ListView.there_of_active flushable.1
    exact ⟨⟨fun _ property ready => absurd ready (idle property),
        fun _ => reading.quiet_fresh table named there quiet⟩,
      fun _ property ready => absurd ready (idle property)⟩

def Entry.sampleCopy (name : String) : Scene Nat :=
  let handler := Entry.handler.comap fun ref => { id := 1, name := if ref = 1 then "a" else name }
  let begun := (Scene.start handler []).act
    (.configure { sortProperty := some 2, maxCount := some 5 })
  (((begun.add 1 [1]).act (.command .flush)).remove 1 []).add 2 [2]

theorem Entry.sampleCopy_run (name : String) :
    Run Candid (Scene.start (Entry.handler.comap fun ref =>
      { id := 1, name := if ref = 1 then "a" else name }) []) (Entry.sampleCopy name) := by
  refine .next ?_ (.add 2 [2] List.not_mem_nil (.refl _))
  refine .next ?_ (.remove 1 [] (.refl _))
  refine .next (.next (.next .rest (.act _ ?_)) (.add 1 [1] List.not_mem_nil (.refl _))) (.act _ ?_)
  · rintro _ ⟨⟩
  · rintro _ ⟨⟩ _
    refine ⟨fun _ _ _ never => never.1, ?_⟩
    intro property _ item _ told
    cases told

theorem Entry.sampleCopy_named (name : String) : (Entry.sampleCopy name).Named :=
  fun _ _ _ never => never.1.1

theorem sampleCopy_fresh :
    let scene := Entry.sampleCopy "a"
    let after := scene.act (.command .flush)
    scene.Named ∧ after.Flushable ∧
      (after.Fresh ↔ scene.Accounted) ∧ (scene.Steady → scene.Accounted) := by
  intro scene after
  have named := Entry.sampleCopy_named "a"
  have flushable : after.Flushable := ⟨by decide +kernel, by decide +kernel⟩
  exact ⟨named, flushable, fresh_iff_accounted Entry.properties_proper (by decide)
    (Entry.sampleCopy_run "a") (.command .flush) rfl named flushable⟩

/-- The entry that comes is known by the key of the one that goes, so it is not told as a new one, and
no update names its properties: the copy keeps the name of the entry that went. -/
theorem sampleCopy_stale :
    let scene := Entry.sampleCopy "b"
    let after := scene.act (.command .flush)
    Run Candid (Scene.start (Entry.handler.comap fun ref =>
      { id := 1, name := if ref = 1 then "a" else "b" }) []) scene ∧
      scene.Named ∧ after.Flushable ∧ after.view.rows.matching = [2] ∧ ¬ after.Fresh := by
  intro scene after
  refine ⟨Entry.sampleCopy_run "b", Entry.sampleCopy_named "b",
    ⟨by decide +kernel, by decide +kernel⟩, by decide +kernel, fun fresh => ?_⟩
  have has := fresh 2 (by decide +kernel) "name"
  have kept : (Assoc.get? (after.replica.properties (after.handler.key 2)) "name").bind Json.string? =
      some "a" := by decide +kernel
  have new : (Assoc.get? (after.handler.fields after.handler.table.ids 2) "name").bind Json.string? =
      some "b" := by decide +kernel
  rw [has, new] at kept
  exact absurd kept (by decide)

end LiveList
