import LiveList.Entry.Basic
import LiveList.Proofs.View.Replica
import LiveList.Proofs.View.Ticking

/-!
Convergence of the reader's copy. Whatever a view hears, in whatever order, and whatever its owner
does with it: after every flush of a view that is active and sorted, the copy is the window.
-/

namespace LiveList

variable {Ref : Type}

namespace ListView

variable {key : Ref → Nat} {handler : Handler Ref} {source : List Ref} {view after : ListView Ref}
  {replica : Replica} {property : PropertyId} {permit : Permit Ref} {effects : List ViewEffect}

theorem deltaRows_ids (known : List Nat) (updated : List (Nat × PropertySet))
    (window : List Ref) :
    (deltaRows handler known updated window).map (·.id) = window.map handler.key := by
  apply List.ext_getElem?
  intro place
  simp only [deltaRows, List.getElem?_map, List.getElem?_mapIdx, Option.map_map]
  rfl

theorem deltaRows_positions (known : List Nat) (updated : List (Nat × PropertySet))
    (window : List Ref) :
    (deltaRows handler known updated window).map (·.position) = List.range window.length := by
  apply List.ext_getElem (by simp [deltaRows])
  intro place inside _
  simp [deltaRows]

theorem followAll_flush (ready : view.Ready property) :
    replica.followAll (view.flush handler).effects =
      replica.learn (view.passDelta handler property) := by
  rw [flush_effects handler ready]
  split
  · rename_i empty
    exact (replica.learn_empty empty).symm
  · rfl

theorem learn_rows : (replica.learn (view.passDelta handler property)).rows =
    if view.passRetells handler property then
      (deltaRows handler view.rows.window (view.passEnd handler property).updated
        (view.passWindow handler property)).map replica.receive
    else replica.rows := by
  rw [← (view.passEnd_told handler property).1]
  simp only [Replica.learn, passDelta]
  split <;> rfl

theorem told_rows (told : replica.Told view.rows) :
    (replica.learn (view.passDelta handler property)).rows.map (·.id) =
        (view.passed handler property).rows.window ∧
      (replica.learn (view.passDelta handler property)).rows.map (·.position) =
        List.range (replica.learn (view.passDelta handler property)).rows.length := by
  by_cases retells : view.passRetells handler property = true
  · rw [learn_rows, if_pos retells, List.map_map, List.map_map, List.length_map]
    constructor
    · exact deltaRows_ids _ _ _
    · have length : (deltaRows handler view.rows.window
          (view.passEnd handler property).updated (view.passWindow handler property)).length =
            (view.passWindow handler property).length := by simp [deltaRows]
      rw [length]
      exact deltaRows_positions _ _ _
  · rw [learn_rows, if_neg retells]
    -- Rows are left out only if the window has the keys that were told before.
    simp only [Bool.not_eq_true, passRetells, Bool.or_eq_false_iff, bne_eq_false_iff_eq] at retells
    refine ⟨?_, told.positions⟩
    rw [told.ids, ← (view.passEnd_told handler property).1]
    exact retells.1.1.symm

theorem told_passed (told : replica.Told view.rows) :
    (replica.learn (view.passDelta handler property)).Told (view.passed handler property).rows where
  ids := (told_rows told).1
  positions := (told_rows told).2
  start := by
    simp only [Replica.learn, passDelta, passed]
    split
    · rfl
    · rw [(view.passEnd_told handler property).2.1, told.start]
      exact Replica.or_ifNews _ _
  matching := by
    simp only [Replica.learn, passDelta, passed]
    rw [(view.passEnd_told handler property).2.2.1, told.matching]
    exact Replica.or_ifNews _ _
  total := by
    simp only [Replica.learn, passDelta, passed]
    rw [(view.passEnd_told handler property).2.2.2, told.total]
    exact Replica.or_ifNews _ _

theorem current_passed (same : handler.key = key) :
    (view.passed handler property).Current key where
  window := by
    rw [← same]
    exact congrArg (List.map handler.key) (page_eq _ _ _).symm
  start := rfl
  inside := by
    simp only [passed, passOffset]
    split
    · rename_i inside
      exact .inl inside
    · exact .inr rfl
  matching := rfl
  total := rfl

theorem Followed.start : ({} : ListView Ref).Followed key {} where
  silent _ := ⟨rfl, rfl, rfl, rfl, rfl⟩
  told absent := absurd rfl absent
  current absent := absurd rfl absent

/-- What a view hears waits; neither the copy nor the picture is touched. -/
theorem Followed.hear (followed : view.Followed key replica) (kind : ChangeKind) (item : Ref)
    (changed : PropertySet) : (view.hear handler kind item changed).Followed key replica := by
  unfold ListView.hear
  split
  · exact followed
  · exact ⟨followed.silent, followed.told, fun there sorted unmarked =>
      have current := followed.current there sorted unmarked
      ⟨current.window, current.start, current.inside, current.matching, current.total⟩⟩

theorem Followed.hearAll (followed : view.Followed key replica) (items : List Ref)
    (changed : PropertySet) : (view.hearAllUpdated handler items changed).Followed key replica := by
  unfold hearAllUpdated
  induction items generalizing view with
  | nil => exact followed
  | cons item rest ih => exact ih (followed.hear .update item changed)

theorem Followed.flush (followed : view.Followed key replica) (same : handler.key = key) :
    (view.flush handler).view.Followed key
      (replica.followAll (view.flush handler).effects) := by
  by_cases runs : ∃ property, view.Ready property
  · obtain ⟨property, ready⟩ := runs
    have there := ready.there
    rw [followAll_flush ready, flush_ready handler ready]
    exact {
      silent := fun absent => absurd absent there
      told := fun _ => told_passed (followed.told there)
      current := fun _ _ _ => current_passed same }
  · rw [flush_idle handler (not_exists.mp runs)]
    exact followed

theorem insertAll_told (handler : Handler Ref) (rows : Rows Ref) (items : List Ref)
    (told : replica.Told rows) : replica.Told (rows.insertAll handler items) := by
  have kept := Rows.insertAll_kept handler rows items
  exact ⟨told.ids.trans kept.window.symm, told.positions, told.start.trans kept.toldStart.symm,
    told.matching.trans kept.toldMatching.symm, told.total.trans kept.toldTotal.symm⟩

theorem Followed.motion (followed : view.Followed key replica) (same : handler.key = key)
    (motion : Motion handler source permit view after effects) :
    after.Followed key (replica.followAll effects) := by
  cases motion with
  | set update =>
      have marked := ViewSettings.Marked.apply view.settings update
      refine ⟨followed.silent, followed.told, fun there sorted unmarked => ?_⟩
      have current := followed.current there sorted (marked.kept unmarked)
      have shown : ListView.shown { view with settings := view.settings.apply update } =
          view.shown := by
        simp only [ListView.shown, marked.start unmarked, marked.count unmarked]
        rfl
      have start := marked.start unmarked
      refine ⟨?_, ?_, ?_, current.matching, current.total⟩
      · rw [shown]
        exact current.window
      · rw [start]
        exact current.start
      · rw [start]
        exact current.inside
  | addEmptyFilter =>
      exact ⟨followed.silent, followed.told, fun there sorted unmarked =>
        have current := followed.current there sorted unmarked
        ⟨current.window, current.start, current.inside, current.matching, current.total⟩⟩
  | filter filters =>
      refine ⟨fun absent => ?_, fun there => ?_, fun _ sorted => ?_⟩
      · have told := followed.silent absent
        exact ⟨told.ids, told.positions, told.start, told.matching, told.total⟩
      · have told := followed.told there
        exact ⟨told.ids, told.positions, told.start, told.matching, told.total⟩
      · cases sorted
  | activate paused inactive =>
      -- The copy starts empty, and so does what was told: an inactive view has told nothing.
      have told := insertAll_told handler view.rows source (followed.silent inactive)
      have fresh : replica.followAll [.join, .activated true] = {} := rfl
      rw [fresh]
      cases paused with
      | true =>
          refine ⟨fun absent => ?_, fun _ => ?_, fun _ sorted => ?_⟩
          · cases absent
          · exact ⟨told.ids, told.positions, told.start, told.matching, told.total⟩
          · cases sorted
      | false =>
          refine ⟨fun absent => ?_, fun _ => ?_, fun _ sorted => ?_⟩
          · cases absent
          · exact ⟨told.ids, told.positions, told.start, told.matching, told.total⟩
          · cases sorted
  | pause =>
      unfold ListView.pause
      split
      · rename_i active
        have there : view.phase ≠ .inactive := by simp [active]
        refine ⟨fun absent => ?_, fun _ => followed.told there, fun _ sorted unmarked => ?_⟩
        · cases absent
        · have current := followed.current there sorted unmarked
          exact ⟨current.window, current.start, current.inside, current.matching, current.total⟩
      · exact followed
  | unpause paused =>
      have there : view.phase ≠ .inactive := by simp [paused]
      have told := followed.told there
      refine ⟨fun absent => ?_, fun _ => ?_, fun _ sorted => ?_⟩
      · cases absent
      · exact ⟨told.ids, told.positions, told.start, told.matching, told.total⟩
      · cases sorted
  | flush => exact followed.flush same
  | stop =>
      exact ⟨fun _ => ⟨rfl, rfl, rfl, rfl, rfl⟩, fun there => absurd rfl there,
        fun there => absurd rfl there⟩
  | reload =>
      unfold ListView.reload
      split
      · exact followed
      · rename_i there
        have told := insertAll_told handler view.rows.clearItems source
          ⟨(followed.told there).ids, (followed.told there).positions,
            (followed.told there).start, (followed.told there).matching,
            (followed.told there).total⟩
        refine ⟨fun absent => absurd absent there, fun _ => ?_, fun _ sorted => ?_⟩
        · exact ⟨told.ids, told.positions, told.start, told.matching, told.total⟩
        · cases sorted

theorem Followed.motions (followed : view.Followed key replica) (same : handler.key = key)
    (motions : Motions handler source permit view after effects) :
    after.Followed key (replica.followAll effects) :=
  motions.follow (fun view replica => view.Followed key replica)
    (fun _ _ _ _ motion followed => followed.motion same motion) followed

theorem Followed.meet (followed : view.Followed key replica) {occasion : Occasion Ref}
    (same : occasion.handler.key = key) :
    (view.meet occasion).view.Followed key (replica.followAll (view.meet occasion).effects) := by
  unfold ListView.meet
  split
  · exact followed.hear _ _ _
  · exact followed.hearAll _ _
  · exact followed.motions same (act_motions _)

theorem Followed.live (followed : view.Followed key replica) {occasions : List (Occasion Ref)}
    (keyed : ∀ occasion ∈ occasions, occasion.handler.key = key) :
    (view.live occasions).view.Followed key (replica.followAll (view.live occasions).effects) := by
  induction occasions generalizing view replica with
  | nil => exact followed
  | cons occasion rest ih =>
      have first := followed.meet (keyed occasion List.mem_cons_self)
      have later := ih first fun other member => keyed other (List.mem_cons_of_mem occasion member)
      unfold Replica.followAll at later ⊢
      simp only [ListView.live, List.foldl_append]
      exact later

end ListView

open ListView

/-- After any run of a view, and then a flush that finds the view active and sorted, the copy of its
reader is the window: the same rows in the same order, the same start, and the same counts. It makes
no difference whether the flush had anything to tell. -/
theorem replica_converges (key : Ref → Nat) (occasions : List (Occasion Ref))
    (keyed : ∀ occasion ∈ occasions, occasion.handler.key = key) (handler : Handler Ref)
    (same : handler.key = key) (source : List Ref) (act : ViewAct) :
    let before := ({} : ListView Ref).live occasions
    let after := before.view.act handler source act
    (before.view.flushing handler act).isSome → after.view.phase = .active →
      after.view.settings.sortProperty.isSome →
        after.view.Mirrors key (({} : Replica).followAll (before.effects ++ after.effects)) := by
  intro before after flushes active sorted
  have reached : before.view.Followed key (({} : Replica).followAll before.effects) :=
    Followed.start.live keyed
  have flushed : after.view.Followed key
      ((({} : Replica).followAll before.effects).followAll after.effects) :=
    reached.motions same (act_motions act)
  have effects : ({} : Replica).followAll (before.effects ++ after.effects) =
      (({} : Replica).followAll before.effects).followAll after.effects :=
    List.foldl_append
  rw [effects]
  refine flushed.mirrors active ?_
  show after.view.hasNews = false
  obtain ⟨middle, flushes⟩ := Option.isSome_iff_exists.mp flushes
  have performed : after = middle.flush handler := act_flushes flushes (Timed.start.live occasions)
  rw [performed] at active sorted ⊢
  exact flush_quiet active sorted

def Entry.sampleRun : List (Occasion Nat) :=
  let handler := Entry.handler.comap fun ref => { id := ref, tag := 10 - ref }
  let on (event : ViewEvent Nat) : Occasion Nat := ⟨handler, [1, 2], event⟩
  [on (.acted (.configure { sortProperty := some 2, maxCount := some 2 })),
    on (.acted (.command .flush)),
    on (.heard .add 3 []),
    on (.heardAll [1, 7] [2]),
    on (.acted (.setFilter 1 none)),
    on (.acted (.command .clearFilters))]

theorem sampleRun_converges :
    let handler := Entry.handler.comap fun ref => { id := ref, tag := 10 - ref }
    let before := ({} : ListView Nat).live Entry.sampleRun
    let after := before.view.act handler [1, 2] (.command .flush)
    (∀ occasion ∈ Entry.sampleRun, occasion.handler.key = id) ∧ after.view.phase = .active ∧
      after.view.settings.sortProperty.isSome ∧
      after.view.Mirrors id (({} : Replica).followAll (before.effects ++ after.effects)) := by
  have keyed : ∀ occasion ∈ Entry.sampleRun, occasion.handler.key = id := by
    simp [Entry.sampleRun]
    rfl
  refine ⟨keyed, by decide +kernel, by decide +kernel, ?_⟩
  exact replica_converges id Entry.sampleRun keyed _ rfl [1, 2] (.command .flush) rfl
    (by decide +kernel) (by decide +kernel)

end LiveList
