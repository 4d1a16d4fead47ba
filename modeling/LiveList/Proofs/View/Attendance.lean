import LiveList.Proofs.View.Lifecycle

/-!
A view at its source. The view holds a place among the listeners of its source exactly while it is
not inactive, and never two; every change of that is told, and whatever else listens to the source
has no part in it.
-/

namespace LiveList

variable {Ref Listener : Type}

/-- A view, the signal of its source, and what the view has done outside of itself so far. The
session that the view belongs to may have ended. -/
structure Attendance (Ref Listener : Type) where
  attached : AttachedView Ref := {}
  signal : Signal Listener := {}
  effects : List ViewEffect := []
  connected : Bool := true

def ViewEffect.news : ViewEffect → Option Bool
  | .activated on => some on
  | .join | .leave | .told _ => none

namespace Attendance

def view (state : Attendance Ref Listener) : ListView Ref := state.attached.view

def news (state : Attendance Ref Listener) : List Bool := state.effects.filterMap ViewEffect.news

def Alternating (news : List Bool) : Prop := news = (List.range news.length).map (· % 2 == 0)

def carry (mine : Listener) (state : Attendance Ref Listener) (step : ViewStep Ref) :
    Attendance Ref Listener :=
  let (attached, signal) := state.attached.settle mine state.signal step
  { state with attached, signal, effects := state.effects ++ step.effects }

/-- The session of the view ends, which tears the view down. That happens only once. -/
def hangUp (mine : Listener) (state : Attendance Ref Listener) : Attendance Ref Listener :=
  if state.connected then { state.carry mine state.view.stop with connected := false } else state

variable [DecidableEq Listener]

def report (mine : Listener) (handler : Handler Ref) (kind : ChangeKind) (item : Ref)
    (changed : PropertySet) (state : Attendance Ref Listener) : Attendance Ref Listener :=
  let hears (listener : Listener) (view : ListView Ref) :=
    if listener = mine then view.hear handler kind item changed else view
  { state with attached := { state.attached with view := state.signal.emit hears state.view } }

inductive Step (mine : Listener) : Attendance Ref Listener → Attendance Ref Listener → Prop where
  | meet (state) (occasion : Occasion Ref) :
      Step mine state (state.carry mine (state.view.meet occasion))
  | report (state) (handler : Handler Ref) (kind : ChangeKind) (item : Ref) (changed : PropertySet) :
      Step mine state (state.report mine handler kind item changed)
  | hangUp (state) : Step mine state (state.hangUp mine)
  | connect (state) (other : Listener) (foreign : other ≠ mine) :
      Step mine state { state with signal := (state.signal.connect other).2 }
  | disconnect (state) (id : ConnectionId) (foreign : state.signal.listener? id ≠ some mine) :
      Step mine state { state with signal := (state.signal.disconnect id).2 }

inductive Reached (mine : Listener) : Attendance Ref Listener → Prop where
  | start : Reached mine {}
  | next {before after} (reached : Reached mine before) (step : Step mine before after) :
      Reached mine after

end Attendance

namespace ListView

variable {handler : Handler Ref} {source : List Ref} {permit : Permit Ref}
  {before after view : ListView Ref} {effects : List ViewEffect}

/-- What a motion can do to the activity of a view: nothing, so that nothing but deltas is told of
it, or it starts or ends the activity. -/
inductive Turn (before after : ListView Ref) : List ViewEffect → Prop where
  | still (effects : List ViewEffect) (same : after.phase = .inactive ↔ before.phase = .inactive)
      (told : ∀ effect ∈ effects, ∃ delta, effect = .told delta) :
      Turn before after effects
  | on (inactive : before.phase = .inactive) (there : after.phase ≠ .inactive) :
      Turn before after [.join, .activated true]
  | off (there : before.phase ≠ .inactive) (inactive : after.phase = .inactive) :
      Turn before after [.leave, .activated false]

theorem Turn.quiet (same : after.phase = .inactive ↔ before.phase = .inactive) :
    Turn before after [] :=
  .still [] same (by simp)

theorem flush_tells (view : ListView Ref) :
    ∀ effect ∈ (view.flush handler).effects, view.phase = .active ∧ ∃ delta, effect = .told delta := by
  intro effect member
  by_cases runs : ∃ property, view.Ready property
  · obtain ⟨property, ready⟩ := runs
    rw [flush_effects handler ready] at member
    split at member
    · cases member
    · exact ⟨ready.active, _, List.mem_singleton.mp member⟩
  · rw [flush_idle handler (not_exists.mp runs)] at member
    cases member

theorem stop_turn (view : ListView Ref) : Turn view view.stop.view view.stop.effects := by
  by_cases inactive : view.phase = .inactive
  · simp only [ListView.stop, inactive, ↓reduceIte]
    exact .quiet (by simp [inactive])
  · simp only [ListView.stop, inactive, ↓reduceIte]
    exact .off inactive rfl

theorem Motion.turn (motion : Motion handler source permit before after effects) :
    Turn before after effects := by
  cases motion with
  | set | addEmptyFilter | filter => exact .quiet Iff.rfl
  | activate paused inactive =>
      refine .on inactive ?_
      cases paused <;> simp [ListView.activate, ListView.refilter]
  | pause =>
      refine .quiet ?_
      unfold ListView.pause
      split
      · rename_i active
        simp [active]
      · rfl
  | unpause paused => exact .quiet (by simp [unpaused, paused])
  | flush =>
      refine .still _ ?_ fun effect member => (before.flush_tells effect member).2
      rw [(before.flush_pace handler).1]
  | stop => exact before.stop_turn
  | reload =>
      refine .quiet ?_
      unfold ListView.reload
      split <;> exact Iff.rfl

/-- Only a flush that is permitted tells a delta, and only of an active view. -/
theorem Motions.told {delta : Delta Nat} (motions : Motions handler source permit before after effects)
    (told : .told delta ∈ effects) : ∃ moment, permit.flush moment ∧ moment.phase = .active := by
  induction motions with
  | rest => cases told
  | next motion _ ih =>
      rcases List.mem_append.mp told with first | later
      · cases motion with
        | flush allowed => exact ⟨_, allowed, (flush_tells _ _ first).1⟩
        | activate | set | addEmptyFilter | filter | pause | unpause | reload => simp at first
        | stop =>
            simp only [ListView.stop] at first
            split at first <;> simp at first
      · exact ih later

/-- What tells a delta is the flush of an active view, and nothing else. -/
theorem Timed.meet_told {delta : Delta Nat} (timed : view.Timed) {occasion : Occasion Ref}
    (told : .told delta ∈ (view.meet occasion).effects) :
    ∃ moment : ListView Ref, moment.phase = .active ∧
      view.meet occasion = moment.flush occasion.handler := by
  unfold ListView.meet at told ⊢
  split at told
  · cases told
  · cases told
  · rename_i act event
    obtain ⟨moment, flushes, active⟩ := (act_motions act).told told
    exact ⟨moment, active, act_flushes flushes timed⟩

end ListView

/-- Telling something has no part in who is connected. -/
theorem AttachedView.foldl_carryOut_told {mine : Listener} {effects : List ViewEffect}
    (told : ∀ effect ∈ effects, ∃ delta, effect = .told delta)
    (places : Option ConnectionId × Signal Listener) :
    effects.foldl (carryOut mine) places = places := by
  induction effects with
  | nil => rfl
  | cons effect rest ih =>
      obtain ⟨delta, rfl⟩ := told effect List.mem_cons_self
      exact ih fun effect member => told effect (List.mem_cons_of_mem _ member)

namespace Attendance

open ListView

variable {mine : Listener} {state after : Attendance Ref Listener}

/-- Effects of one operation after another are those of both in one. -/
theorem carry_carry (state : Attendance Ref Listener) (mine : Listener) (middle after : ListView Ref)
    (first later : List ViewEffect) :
    (state.carry mine { view := middle, effects := first }).carry mine
        { view := after, effects := later } =
      state.carry mine { view := after, effects := first ++ later } := by
  simp [carry, AttachedView.settle, List.foldl_append]

theorem carry_told {view : ListView Ref} {effects : List ViewEffect}
    (told : ∀ effect ∈ effects, ∃ delta, effect = .told delta) :
    state.carry mine { view, effects } =
      { state with
        attached := { state.attached with view }
        effects := state.effects ++ effects } := by
  simp [carry, AttachedView.settle, AttachedView.foldl_carryOut_told told]

theorem carry_joins {view : ListView Ref} (apart : state.attached.connection = none) :
    state.carry mine { view, effects := [.join, .activated true] } =
      { state with
        attached := { view, connection := some (state.signal.connect mine).1 }
        signal := (state.signal.connect mine).2
        effects := state.effects ++ [.join, .activated true] } := by
  simp [carry, AttachedView.settle, AttachedView.carryOut, apart]

theorem carry_leaves {view : ListView Ref} {id : ConnectionId}
    (place : state.attached.connection = some id) :
    state.carry mine { view, effects := [.leave, .activated false] } =
      { state with
        attached := { view, connection := none }
        signal := (state.signal.disconnect id).2
        effects := state.effects ++ [.leave, .activated false] } := by
  simp [carry, AttachedView.settle, AttachedView.carryOut, place]

theorem news_turn (state : Attendance Ref Listener) (place : ViewEffect) (on : Bool)
    (silent : place.news = none) :
    (state.effects ++ [place, .activated on]).filterMap ViewEffect.news = state.news ++ [on] := by
  rw [List.filterMap_append, List.filterMap_cons, silent]
  rfl

variable [DecidableEq Listener]

structure Kept (mine : Listener) (state : Attendance Ref Listener) : Prop where
  sound : state.signal.Sound
  timed : state.view.Timed
  bare : state.view.Bare
  absent : state.view.phase = .inactive →
    state.attached.connection = none ∧ state.signal.listeners.count mine = 0
  present : state.view.phase ≠ .inactive →
    (∃ id, state.attached.connection = some id ∧ state.signal.listener? id = some mine) ∧
      state.signal.listeners.count mine = 1
  turns : Alternating state.news
  even : state.view.phase = .inactive → state.news.length % 2 = 0
  odd : state.view.phase ≠ .inactive → state.news.length % 2 = 1

theorem Kept.start (mine : Listener) : ({} : Attendance Ref Listener).Kept mine where
  sound := .start
  timed := .start
  bare := .start
  absent _ := ⟨rfl, rfl⟩
  present there := absurd rfl there
  turns := rfl
  even _ := rfl
  odd there := absurd rfl there

theorem Alternating.append {news : List Bool} {on : Bool} (turns : Alternating news)
    (fits : on = (news.length % 2 == 0)) : Alternating (news ++ [on]) := by
  unfold Alternating at turns ⊢
  rw [List.length_append, List.length_singleton, List.range_succ, List.map_append, ← turns, fits]
  rfl

/-- Hearing of something, or a flush, leaves everything but the view as it is. -/
theorem Kept.still (kept : state.Kept mine) {view : ListView Ref} {effects : List ViewEffect}
    (same : view.phase = .inactive ↔ state.view.phase = .inactive)
    (told : ∀ effect ∈ effects, ∃ delta, effect = .told delta)
    (timed : view.Timed) (bare : view.Bare) :
    Kept mine { state with
      attached := { state.attached with view }
      effects := state.effects ++ effects } := by
  have silent : effects.filterMap ViewEffect.news = [] := by
    refine List.filterMap_eq_nil_iff.mpr fun effect member => ?_
    obtain ⟨delta, rfl⟩ := told effect member
    rfl
  have news : (state.effects ++ effects).filterMap ViewEffect.news = state.news := by
    rw [List.filterMap_append, silent, List.append_nil]
    rfl
  refine ⟨kept.sound, timed, bare, fun inactive => kept.absent (same.mp inactive),
    fun there => kept.present (there ∘ same.mpr), ?_, ?_, ?_⟩ <;>
    rw [Attendance.news, news]
  · exact kept.turns
  · exact fun inactive => kept.even (same.mp inactive)
  · exact fun there => kept.odd (there ∘ same.mpr)

theorem Kept.turn {view : ListView Ref} {effects : List ViewEffect} (kept : state.Kept mine)
    (turn : Turn state.view view effects) (timed : view.Timed) (bare : view.Bare) :
    Kept mine (state.carry mine { view, effects }) := by
  rcases turn with ⟨_, same, told⟩ | ⟨inactive, there⟩ | ⟨there, inactive⟩
  · rw [carry_told told]
    exact kept.still same told timed bare
  · have parity := kept.even inactive
    obtain ⟨apart, none⟩ := kept.absent inactive
    have news := news_turn state .join true rfl
    rw [carry_joins apart]
    refine ⟨kept.sound.connect mine, timed, bare, (absurd · there), fun _ => ⟨⟨_, rfl, ?_⟩, ?_⟩,
      ?_, (absurd · there), fun _ => ?_⟩
    · rw [kept.sound.listener?_connect, if_pos rfl]
    · rw [kept.sound.count_connect, none, if_pos rfl]
    · rw [Attendance.news, news]
      exact kept.turns.append (by simp [parity])
    · rw [Attendance.news, news, List.length_append, Nat.add_mod, parity]
      rfl
  · have parity := kept.odd there
    obtain ⟨⟨id, place, own⟩, one⟩ := kept.present there
    rw [carry_leaves place]
    have left := Signal.count_disconnect own mine
    rw [if_pos rfl, one] at left
    have news := news_turn state .leave false rfl
    refine ⟨kept.sound.disconnect id, timed, bare, fun _ => ⟨rfl, Nat.succ.inj left⟩,
      (absurd inactive ·), ?_, fun _ => ?_, (absurd inactive ·)⟩
    · rw [Attendance.news, news]
      exact kept.turns.append (by simp [parity])
    · rw [Attendance.news, news, List.length_append, Nat.add_mod, parity]
      rfl

theorem Kept.motions {handler : Handler Ref} {source : List Ref} {permit : Permit Ref}
    {before view : ListView Ref} {effects : List ViewEffect} (kept : state.Kept mine)
    (here : state.view = before) (motions : Motions handler source permit before view effects) :
    Kept mine (state.carry mine { view, effects }) := by
  induction motions generalizing state with
  | rest view =>
      subst here
      rw [carry_told (by simp)]
      exact kept.still Iff.rfl (by simp) kept.timed kept.bare
  | next motion _ ih =>
      subst here
      rw [← carry_carry]
      exact ih (kept.turn motion.turn (kept.timed.motion motion) (kept.bare.motion motion)) rfl

/-- A view that was not torn down or activated by what it heard. -/
theorem Kept.heard (kept : state.Kept mine) {view : ListView Ref}
    (same : view.phase = state.view.phase) (timed : view.Timed) (bare : view.Bare) :
    Kept mine { state with attached := { state.attached with view } } := by
  have quiet := kept.still (by rw [same]) (List.forall_mem_nil _) timed bare
  rwa [List.append_nil] at quiet

theorem Kept.meet (kept : state.Kept mine) (occasion : Occasion Ref) :
    Kept mine (state.carry mine (state.view.meet occasion)) := by
  unfold ListView.meet
  split
  · rw [carry_told (by simp), List.append_nil]
    exact kept.heard (hear_pace _ _ _ _ _).1 (kept.timed.hear _ _ _) (kept.bare.hear _ _ _)
  · rw [carry_told (by simp), List.append_nil]
    exact kept.heard (hearAll_pace _ _ _ _).1 (kept.timed.hearAll _ _) (kept.bare.hearAll _ _)
  · exact kept.motions rfl (act_motions _)

/-- What hearing of a change keeps, a report to all listeners keeps. -/
theorem report_keeps {handler : Handler Ref} {kind : ChangeKind} {item : Ref} {changed : PropertySet}
    {holds : ListView Ref → Prop}
    (hears : ∀ view, holds view → holds (view.hear handler kind item changed))
    (start : holds state.view) : holds (state.report mine handler kind item changed).view := by
  show holds (List.foldl _ state.view state.signal.listeners)
  generalize state.view = view at start
  induction state.signal.listeners generalizing view with
  | nil => exact start
  | cons listener rest ih =>
      refine ih _ ?_
      show holds (if listener = mine then view.hear handler kind item changed else view)
      split
      · exact hears view start
      · exact start

theorem Kept.report (kept : state.Kept mine) (handler : Handler Ref) (kind : ChangeKind) (item : Ref)
    (changed : PropertySet) : Kept mine (state.report mine handler kind item changed) := by
  have hears (view : ListView Ref)
      (held : view.phase = state.view.phase ∧ view.Timed ∧ view.Bare) :
      (view.hear handler kind item changed).phase = state.view.phase ∧
        (view.hear handler kind item changed).Timed ∧ (view.hear handler kind item changed).Bare :=
    ⟨(view.hear_pace handler kind item changed).1.trans held.1, held.2.1.hear _ _ _, held.2.2.hear _ _ _⟩
  obtain ⟨same, timed, bare⟩ := report_keeps hears ⟨rfl, kept.timed, kept.bare⟩
  exact kept.heard same timed bare

theorem Kept.hangUp (kept : state.Kept mine) : Kept mine (state.hangUp mine) := by
  unfold Attendance.hangUp
  split
  · have stopped := kept.turn state.view.stop_turn .stop .stop
    exact ⟨stopped.sound, stopped.timed, stopped.bare, stopped.absent, stopped.present, stopped.turns,
      stopped.even, stopped.odd⟩
  · exact kept

theorem Kept.connect (kept : state.Kept mine) {other : Listener} (foreign : other ≠ mine) :
    Kept mine { state with signal := (state.signal.connect other).2 } := by
  have count := kept.sound.count_connect other mine
  rw [if_neg foreign, Nat.add_zero] at count
  refine ⟨kept.sound.connect other, kept.timed, kept.bare, fun inactive => ?_, fun there => ?_,
    kept.turns, kept.even, kept.odd⟩
  · exact ⟨(kept.absent inactive).1, count.trans (kept.absent inactive).2⟩
  · obtain ⟨⟨id, place, own⟩, one⟩ := kept.present there
    refine ⟨⟨id, place, ?_⟩, count.trans one⟩
    rw [kept.sound.listener?_connect]
    split
    · rename_i same
      rw [same, kept.sound.listener?_fresh] at own
      cases own
    · exact own

theorem Kept.disconnect (kept : state.Kept mine) {id : ConnectionId}
    (foreign : state.signal.listener? id ≠ some mine) :
    Kept mine { state with signal := (state.signal.disconnect id).2 } := by
  have count : (state.signal.disconnect id).2.listeners.count mine =
      state.signal.listeners.count mine := by
    cases found : state.signal.listener? id with
    | none => rw [Signal.disconnect_absent found]
    | some other =>
        have left := Signal.count_disconnect found mine
        have apart : other ≠ mine := fun same => foreign (found.trans (congrArg some same))
        rwa [if_neg apart, Nat.add_zero] at left
  refine ⟨kept.sound.disconnect id, kept.timed, kept.bare, fun inactive => ?_, fun there => ?_,
    kept.turns, kept.even, kept.odd⟩
  · exact ⟨(kept.absent inactive).1, count.trans (kept.absent inactive).2⟩
  · obtain ⟨⟨own, place, there⟩, one⟩ := kept.present there
    have apart : own ≠ id := fun same => foreign (same ▸ there)
    refine ⟨⟨own, place, ?_⟩, count.trans one⟩
    rw [Signal.listener?_disconnect, if_neg apart]
    exact there

theorem Kept.step (kept : state.Kept mine) (step : Step mine state after) : after.Kept mine := by
  cases step with
  | meet occasion => exact kept.meet occasion
  | report handler kind item changed => exact kept.report handler kind item changed
  | hangUp => exact kept.hangUp
  | connect other foreign => exact kept.connect foreign
  | disconnect id foreign => exact kept.disconnect foreign

theorem paced_step (paced : state.view.Paced) (step : Step mine state after) : after.view.Paced := by
  cases step with
  | meet occasion => exact paced.meet occasion
  | report handler kind item changed =>
      refine report_keeps (fun view paced => ?_) paced
      exact Paced.keep paced (view.hear_pace handler kind item changed)
  | hangUp =>
      unfold Attendance.hangUp
      split
      · exact state.view.stop_paced
      · exact paced
  | connect | disconnect => exact paced

theorem Reached.kept (reached : Reached mine state) : state.Kept mine ∧ state.view.Paced := by
  induction reached with
  | start => exact ⟨.start mine, by simp [Paced, Attendance.view]⟩
  | next _ step ih => exact ⟨ih.1.step step, paced_step ih.2 step⟩

/-- What is told in a step is told by the flush of an active view. -/
theorem Kept.told {delta : Delta Nat} {more : List ViewEffect} (kept : state.Kept mine)
    (step : Step mine state after) (effects : after.effects = state.effects ++ more)
    (told : .told delta ∈ more) :
    ∃ (handler : Handler Ref) (moment : ListView Ref), moment.phase = .active ∧
      moment.flush handler = { view := after.view, effects := more } := by
  cases step with
  | meet occasion =>
      obtain rfl := List.append_cancel_left effects
      obtain ⟨moment, active, flushed⟩ := kept.timed.meet_told told
      exact ⟨occasion.handler, moment, active, flushed.symm⟩
  | report | connect | disconnect =>
      obtain rfl := List.self_eq_append_right.mp effects
      cases told
  | hangUp =>
      unfold Attendance.hangUp at effects
      split at effects
      · obtain rfl := List.append_cancel_left effects
        simp only [ListView.stop] at told
        split at told <;> simp at told
      · obtain rfl := List.self_eq_append_right.mp effects
        cases told

/-- What the timer, the source, the settings, the records and the news say of a view. -/
structure Steady (mine : Listener) (state : Attendance Ref Listener) : Prop where
  timer : state.view.timer.running = true ↔ state.view.phase = .active
  connection : state.attached.connection.isSome ↔ state.view.phase ≠ .inactive
  own : ∀ id, state.attached.connection = some id → state.signal.listener? id = some mine
  places : state.signal.listeners.count mine = if state.view.phase = .inactive then 0 else 1
  paused : state.view.phase ≠ .inactive →
    (state.view.phase = .paused ↔ state.view.settings.paused = true)
  items : state.view.phase = .inactive → state.view.rows.items = [] ∧ state.view.rows.index = []
  rows : state.view.phase = .inactive →
    state.view.rows.matching = [] ∧ state.view.rows.matchingKeys = []
  tasks : state.view.phase = .inactive → state.view.changes.tasks = [] ∧ state.view.changes.order = []
  /-- Whatever happens next, a delta is told by the flush of an active view, which stays active. -/
  told : ∀ next, Step mine state next → ∀ more delta, next.effects = state.effects ++ more →
    .told delta ∈ more → next.view.phase = .active ∧
      ∃ (handler : Handler Ref) (moment : ListView Ref), moment.phase = .active ∧
        moment.flush handler = { view := next.view, effects := more }
  news : state.news = (List.range state.news.length).map (· % 2 == 0)

end Attendance

/-- However the operations on a view, the reports of its source and the end of its session follow one
another, the life of the view stays in step. -/
theorem life_steady [DecidableEq Listener] {mine : Listener} {state : Attendance Ref Listener}
    (reached : state.Reached mine) : state.Steady mine := by
  obtain ⟨kept, paced⟩ := reached.kept
  refine ⟨kept.timed, ?_, fun id place => ?_, ?_, fun _ => paced.symm, ?_, ?_, ?_, ?_, kept.turns⟩
  · constructor
    · intro placed inactive
      rw [(kept.absent inactive).1] at placed
      cases placed
    · intro there
      obtain ⟨⟨id, place, _⟩, _⟩ := kept.present there
      rw [place, Option.isSome_some]
  · by_cases inactive : state.view.phase = .inactive
    · rw [(kept.absent inactive).1] at place
      cases place
    · obtain ⟨⟨other, there, own⟩, _⟩ := kept.present inactive
      rw [place] at there
      rwa [Option.some.inj there]
  · split
    · rename_i inactive
      exact (kept.absent inactive).2
    · rename_i there
      exact (kept.present there).2
  · exact fun inactive => ⟨kept.bare.items inactive, kept.bare.index inactive⟩
  · exact fun inactive => ⟨kept.bare.matching inactive, kept.bare.matchingKeys inactive⟩
  · intro inactive
    rw [kept.bare.changes inactive]
    exact ⟨rfl, rfl⟩
  · intro next step more delta effects told
    obtain ⟨handler, moment, active, flushed⟩ := kept.told step effects told
    refine ⟨?_, handler, moment, active, flushed⟩
    have same := (moment.flush_pace handler).1
    rw [flushed] at same
    exact same.trans active

def Entry.sampleLife : List (Attendance Nat Bool → Attendance Nat Bool) :=
  let handler := Entry.handler.comap fun ref => { id := ref }
  let configure (update : SettingsUpdate) (state : Attendance Nat Bool) :=
    state.carry true (state.view.meet ⟨handler, [1, 2], .acted (.configure update)⟩)
  [fun state => { state with signal := (state.signal.connect false).2 },
    configure { sortProperty := some 1, maxCount := some 2, paused := some true },
    Attendance.report true handler .add 3 [],
    configure { paused := some false },
    Attendance.hangUp true,
    configure {}]

def Entry.sampleAttendance : Attendance Nat Bool :=
  sampleLife.foldl (fun state operation => operation state) {}

theorem sampleAttendance_steady :
    Entry.sampleAttendance.Reached true ∧ Entry.sampleAttendance.Steady true := by
  have reached : Entry.sampleAttendance.Reached true :=
    .next (.next (.next (.next (.next (.next .start (.connect _ false (by decide))) (.meet _ _))
      (.report _ _ _ _ _)) (.meet _ _)) (.hangUp _)) (.meet _ _)
  exact ⟨reached, life_steady reached⟩

end LiveList
