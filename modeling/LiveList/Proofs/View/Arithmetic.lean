import LiveList.Proofs.View.Scene
import LiveList.Proofs.View.Sound
import LiveList.Proofs.View.Ticking
import LiveList.Proofs.Word
import Mathlib.Data.List.Perm.Subperm
import Mathlib.Data.List.Infix

/-!
The arithmetic of flushes and pages in 64 bits. As long as a source has fewer items than numbers with
a sign can count, and requests set the windows, no flush overflows and no part of a list is asked for
that is not there.
-/

namespace LiveList

open Outcome

variable {Ref : Type}

namespace FlushState

variable (context : FlushContext Ref) (item : Ref) (key : Nat) (changed : PropertySet)
  (state : FlushState Ref)

def insertMatching? : Option (FlushState Ref) := do
  let place := View.insertionPoint context.order item state.rows.matching
  let start ← if place ≤ state.start then Word.next? state.start else some state.start
  some { state.insertMatching context item with start }

def removeMatching? : Option (FlushState Ref) :=
  if state.rows.matchingKeys.contains key then
    let rows := { state.rows with matchingKeys := state.rows.matchingKeys.filter (· != key) }
    match rows.matching.findIdx? fun item => context.handler.key item == key with
    | some place => do
        let start ← if place < state.start then Word.previous? state.start else some state.start
        some { state with rows := { rows with matching := rows.matching.eraseIdx place }, start }
    | none => some { state with rows }
  else some state

def applyAdd? : Option (FlushState Ref) :=
  let (added, rows) := state.rows.insert (context.handler.key item) item
  let state := { state with rows }
  if added && Filter.passAll context.filters context.handler item then
    state.insertMatching? context item
  else some state

def applyRemove? : Option (FlushState Ref) :=
  let key := context.handler.key item
  match Assoc.get? state.rows.index key with
  | none => some state
  | some arrival =>
      let rows := { state.rows with
        index := Assoc.erase key state.rows.index
        items := Assoc.erase arrival state.rows.items }
      removeMatching? context key { state with rows }

def applyUpdate? : Option (FlushState Ref) :=
  let key := context.handler.key item
  match Assoc.get? state.rows.index key with
  | none => some state
  | some arrival =>
      let state := { state with
        rows := { state.rows with items := Assoc.set arrival item state.rows.items } }
      let inside := state.rows.matchingKeys.contains key
      let passes := Filter.passAll context.filters context.handler item
      if inside then
        if passes then
          let before := (Assoc.get? state.updated key).getD []
          some { state with
            updated := Assoc.set key (PropertySet.union before changed) state.updated }
        else state.removeMatching? context key
      else if passes then state.insertMatching? context item
      else some state

def applied? (change : Change Ref) : Option (FlushState Ref) :=
  match change.kind with
  | .add => do
      let state ← if change.replaces then state.applyRemove? context change.item else some state
      state.applyAdd? context change.item
  | .remove => state.applyRemove? context change.item
  | .update => state.applyUpdate? context change.item change.changed

variable {state}

theorem insertMatching?_eq (room : state.start + 1 < UInt64.size) :
    state.insertMatching? context item = some (state.insertMatching context item) := by
  unfold insertMatching? insertMatching
  dsimp only
  split
  · rw [Word.next?_eq room]
    rfl
  · rfl

theorem removeMatching?_eq (state : FlushState Ref) :
    state.removeMatching? context key = some (state.removeMatching context key) := by
  unfold removeMatching? removeMatching
  cases state.rows.matchingKeys.contains key with
  | false => rfl
  | true =>
      dsimp only
      cases state.rows.matching.findIdx? fun item => context.handler.key item == key with
      | none => rfl
      | some place =>
          by_cases before : place < state.start
          · simp only [before, ↓reduceIte, Word.previous?_eq (Nat.zero_lt_of_lt before)]
            rfl
          · simp only [before, ↓reduceIte]
            rfl

theorem applyAdd?_eq (room : state.start + 1 < UInt64.size) :
    state.applyAdd? context item = some (state.applyAdd context item) := by
  dsimp only [applyAdd?, applyAdd]
  split
  · exact insertMatching?_eq context item room
  · rfl

theorem applyRemove?_eq (state : FlushState Ref) :
    state.applyRemove? context item = some (state.applyRemove context item) := by
  unfold applyRemove? applyRemove
  dsimp only
  cases Assoc.get? state.rows.index (context.handler.key item) with
  | none => rfl
  | some arrival => exact removeMatching?_eq context _ _

theorem applyUpdate?_eq (room : state.start + 1 < UInt64.size) :
    state.applyUpdate? context item changed = some (state.applyUpdate context item changed) := by
  unfold applyUpdate? applyUpdate
  dsimp only
  cases Assoc.get? state.rows.index (context.handler.key item) with
  | none => rfl
  | some arrival =>
      dsimp only
      split
      · split
        · rfl
        · exact removeMatching?_eq context _ _
      · split
        · exact insertMatching?_eq context item room
        · rfl

theorem insertMatching_start (state : FlushState Ref) :
    (state.insertMatching context item).start ≤ state.start + 1 := by
  dsimp only [insertMatching]
  split <;> omega

theorem removeMatching_start (state : FlushState Ref) :
    (state.removeMatching context key).start ≤ state.start := by
  unfold removeMatching
  dsimp only
  split
  · split
    · dsimp only
      split <;> omega
    · exact Nat.le_refl _
  · exact Nat.le_refl _

theorem applyAdd_start (state : FlushState Ref) :
    (state.applyAdd context item).start ≤ state.start + 1 := by
  dsimp only [applyAdd]
  split
  · exact insertMatching_start context item _
  · exact Nat.le_succ _

theorem applyRemove_start (state : FlushState Ref) :
    (state.applyRemove context item).start ≤ state.start := by
  unfold applyRemove
  dsimp only
  split
  · exact Nat.le_refl _
  · exact removeMatching_start context _ _

theorem applyUpdate_start (state : FlushState Ref) :
    (state.applyUpdate context item changed).start ≤ state.start + 1 := by
  unfold applyUpdate
  dsimp only
  split
  · exact Nat.le_succ _
  · split
    · split
      · exact Nat.le_succ _
      · exact Nat.le_succ_of_le (removeMatching_start context _ _)
    · split
      · exact insertMatching_start context item _
      · exact Nat.le_succ _

/-- A change moves the start on by one at most. -/
theorem apply_start (state : FlushState Ref) (change : Change Ref) :
    (state.apply context change).start ≤ state.start + 1 := by
  unfold apply
  cases change.kind with
  | add =>
      cases change.replaces with
      | true =>
          have removed := applyRemove_start context change.item state
          exact (applyAdd_start context change.item _).trans (Nat.succ_le_succ removed)
      | false => exact applyAdd_start context change.item state
  | remove => exact Nat.le_succ_of_le (applyRemove_start context change.item state)
  | update => exact applyUpdate_start context change.item change.changed state

theorem applied?_eq (room : state.start + 1 < UInt64.size) (change : Change Ref) :
    state.applied? context change = some (state.apply context change) := by
  unfold applied? apply
  cases change.kind with
  | add =>
      cases change.replaces with
      | true =>
          have removed := applyRemove_start context change.item state
          simp only [↓reduceIte, applyRemove?_eq, Option.bind_eq_bind, Option.bind_some]
          exact applyAdd?_eq context change.item (by omega)
      | false => exact applyAdd?_eq context change.item room
  | remove => exact applyRemove?_eq context change.item state
  | update => exact applyUpdate?_eq context change.item change.changed room

/-- With room for one step for each change no change moves the start too far. -/
theorem foldlM_applied? {changes : List (Change Ref)}
    (room : state.start + changes.length < UInt64.size) :
    changes.foldlM (applied? context) state = some (changes.foldl (apply context) state) := by
  induction changes generalizing state with
  | nil => rfl
  | cons change rest ih =>
      rw [List.length_cons] at room
      have moved := apply_start context state change
      rw [List.foldlM_cons, applied?_eq context (by omega)]
      exact ih (by omega)

end FlushState

namespace ListView

variable (handler : Handler Ref)

def concluded (view : ListView Ref) (ended : FlushState Ref) (start : Nat) (window : List Ref)
    (offset : Int) : ListView Ref × Option (Delta Nat) :=
  let keys := window.map handler.key
  let newRows := keys != ended.rows.window || keys.any (Assoc.contains ended.updated) ||
    view.settings.changed
  let count := ended.rows.matching.length
  let total := ended.rows.items.length
  let delta : Delta Nat :=
    { rows :=
        if newRows then some (deltaRows handler ended.rows.window ended.updated window) else none
      rangeStart :=
        if view.settings.changed then some start else ifNews ended.rows.toldStart start
      rangeOffset := if offset = 0 then none else some offset
      matchingItems := ifNews ended.rows.toldMatching count
      totalItems := ifNews ended.rows.toldTotal total }
  ({ view with
      settings := { view.settings with rangeStart := start, changed := false }
      changes := {}
      rows := { ended.rows with
        window := keys
        toldStart := some start
        toldMatching := some count
        toldTotal := some total } },
    if delta.isEmpty then none else some delta)

/-- A flush that gives nothing if the start overflows or goes below zero, if the window is no part of
the list, or if its move does not fit. -/
def flushed? (view : ListView Ref) : Option (ListView Ref × Option (Delta Nat)) :=
  match view.phase, view.settings.sortProperty with
  | .active, some property =>
      if view.hasNews then do
        let ended ← view.changes.batch.changes.foldlM
          (FlushState.applied? (view.passContext handler property)) (view.passStart handler property)
        let count := ended.rows.matching.length
        let start := if ended.start < count then ended.start else 0
        let stop := min (Word.addSaturating start view.settings.maxCount) count
        let window ← Word.slice? ended.rows.matching start stop
        let offset ← Word.difference? start view.settings.rangeStart
        some (view.concluded handler ended start window offset)
      else some (view, none)
  | _, _ => some (view, none)

def page? (view : ListView Ref) (start stop : Nat) : Option (List Ref) :=
  let stop := min stop view.rows.matching.length
  if stop ≤ start then some [] else Word.slice? view.rows.matching start stop

def StartFits (view : ListView Ref) : Prop := view.settings.rangeStart < signedLimit

end ListView

/-- An act that can be asked for by request: settings that are handed over were read from one. -/
def ViewAct.Requested : ViewAct → Prop
  | .configure update => ∃ table body, SettingsUpdate.ofJson table body = .ok update
  | .command _ | .setFilter _ _ => True

def Occasion.Requested (occasion : Occasion Ref) : Prop :=
  ∀ act, occasion.event = .acted act → act.Requested

theorem Rows.Valid.matching_le {key : Ref → Nat} {rows : Rows Ref} (valid : rows.Valid key) :
    rows.matching.length ≤ rows.items.length := by
  have inside : rows.matching.map key ⊆ rows.known.map key := by
    intro k member
    obtain ⟨item, there, rfl⟩ := List.mem_map.mp member
    exact valid.inside item there
  have fewer := (valid.distinct.subperm inside).length_le
  simpa [Rows.known] using fewer

/-- A request cannot ask for a start that does not fit. -/
theorem SettingsUpdate.ofJson_start {table : PropertyTable} {body : Json} {update : SettingsUpdate}
    (read : ofJson table body = .ok update) {start : Nat}
    (asked : update.rangeStart = some start) : start < signedLimit := by
  obtain ⟨given, checked, rest⟩ := of_bind_ok read
  obtain ⟨count, _, rest⟩ := of_bind_ok rest
  obtain ⟨property, _, rest⟩ := of_bind_ok rest
  obtain ⟨ascending, _, rest⟩ := of_bind_ok rest
  obtain ⟨paused, _, done⟩ := of_bind_ok rest
  rw [← of_pure_ok done] at asked
  subst asked
  unfold check at checked
  split at checked
  · cases checked
  · obtain ⟨value, accepted, same⟩ := of_map_ok checked
    cases same
    unfold readRangeStart at accepted
    split at accepted
    · cases accepted
    · rename_i number signed
      split at accepted
      · cases accepted
      · rw [← Except.ok.inj accepted]
        unfold Json.signed? at signed
        split at signed
        · split at signed
          · rename_i small
            obtain rfl := Option.some.inj signed
            omega
          · cases signed
        · cases signed

theorem ViewSettings.apply_start (settings : ViewSettings) (update : SettingsUpdate) :
    (settings.apply update).rangeStart = update.rangeStart.getD settings.rangeStart := by
  obtain ⟨start, count, property, ascending, paused⟩ := update
  cases start <;> cases count <;> cases property <;> cases ascending <;> cases paused <;> rfl

namespace ListView

variable {handler : Handler Ref} {source : List Ref} {view before after : ListView Ref}
  {property : PropertyId}

theorem StartFits.set (fits : view.StartFits) {update : SettingsUpdate}
    (asked : ∀ start, update.rangeStart = some start → start < signedLimit) :
    StartFits { view with settings := view.settings.apply update } := by
  show (view.settings.apply update).rangeStart < signedLimit
  rw [ViewSettings.apply_start]
  cases given : update.rangeStart with
  | none => exact fits
  | some start => exact asked start given

theorem passOffset_lt (sound : view.Sound handler.key)
    (small : (view.passed handler property).rows.items.length < signedLimit) :
    view.passOffset handler property < signedLimit := by
  have fewer := (sound.passEnd property).matching_le
  have small : (view.passEnd handler property).rows.items.length < signedLimit := small
  unfold passOffset
  dsimp only
  split <;> omega

theorem StartFits.flush (fits : view.StartFits) (sound : view.Sound handler.key)
    (small : (view.flush handler).view.rows.items.length < signedLimit) :
    (view.flush handler).view.StartFits := by
  by_cases runs : ∃ property, view.Ready property
  · obtain ⟨property, ready⟩ := runs
    rw [flush_ready handler ready] at small ⊢
    exact passOffset_lt sound small
  · rw [flush_idle handler (not_exists.mp runs)]
    exact fits

theorem StartFits.pause (fits : view.StartFits) : view.pause.StartFits := by
  unfold ListView.pause
  split <;> exact fits

theorem StartFits.resume (fits : view.StartFits) (sound : view.Sound handler.key)
    (small : (view.resume handler).view.rows.items.length < signedLimit) :
    (view.resume handler).view.StartFits := by
  by_cases paused : view.phase = .paused
  · have goesOn : Motion handler [] ⟨fun _ => False, False⟩ view view.unpaused [] :=
      .unpause view paused
    have ready := sound.motion goesOn
    simp only [ListView.resume, paused, ↓reduceIte] at small ⊢
    split
    · rename_i started
      rw [if_pos started] at small
      exact StartFits.flush fits ready small
    · exact fits
  · simp only [ListView.resume, paused, ↓reduceIte]
    exact fits

theorem StartFits.configure (fits : view.StartFits) (sound : view.Sound handler.key)
    {update : SettingsUpdate}
    (asked : ∀ start, update.rangeStart = some start → start < signedLimit)
    (small : (view.configure handler source update).view.rows.items.length < signedLimit) :
    (view.configure handler source update).view.StartFits := by
  have set := fits.set asked
  have applied : Motion handler source ⟨fun _ => False, False⟩ view
      { view with settings := view.settings.apply update } [] := .set view update
  unfold ListView.configure at small ⊢
  by_cases inactive : view.phase = .inactive
  · simp only [inactive, ↓reduceIte]
    cases update.paused == some true <;> exact set
  · simp only [inactive, ↓reduceIte] at small ⊢
    cases wish : update.paused with
    | none => exact set
    | some pausing =>
        rw [wish] at small
        cases pausing with
        | true => exact set.pause
        | false => exact set.resume (sound.motion applied) small

theorem zero_lt_signedLimit : 0 < signedLimit := by decide

/-- A change of the filters has the window start over. -/
theorem setFilter_start {id : Nat} {filter : Option Filter}
    (success : view.setFilter handler id filter = .ok after) : after.StartFits := by
  obtain ⟨filters, _, done⟩ := of_bind_ok success
  rw [← of_pure_ok done]
  exact zero_lt_signedLimit

theorem StartFits.addFilter (fits : view.StartFits) (body : Json) :
    (view.addFilter handler body).1.StartFits := by
  unfold ListView.addFilter
  split
  · exact fits
  · exact fits
  · dsimp only
    split
    · rename_i set
      exact setFilter_start set
    · exact fits

theorem changeFilter_start {id : Nat} {body : Json}
    (success : view.changeFilter handler id body = .ok after) : after.StartFits := by
  unfold changeFilter at success
  split at success
  · obtain ⟨filter, _, set⟩ := of_bind_ok success
    exact setFilter_start set
  · cases success

theorem removeFilter_start {id : Nat} (success : view.removeFilter handler id = .ok after) :
    after.StartFits := by
  obtain ⟨filters, _, done⟩ := of_bind_ok success
  rw [← of_pure_ok done]
  exact zero_lt_signedLimit

theorem StartFits.answered (fits : view.StartFits)
    {request : Except ViewError (ViewStep Ref × ViewAnswer)}
    (success : ∀ result, request = .ok result → result.1.view.StartFits) :
    (view.answered request).1.view.StartFits := by
  cases request with
  | error error => exact fits
  | ok result => exact success result rfl

theorem StartFits.perform (fits : view.StartFits) (sound : view.Sound handler.key)
    (command : ViewCommand)
    (small : (view.perform handler source command).1.view.rows.items.length < signedLimit) :
    (view.perform handler source command).1.view.StartFits := by
  cases command with
  | flush => exact fits.flush sound small
  | configure body =>
      cases read : SettingsUpdate.ofJson handler.table body with
      | error error =>
          have same : view.perform handler source (.configure body) = ({ view }, .failed error) := by
            simp only [ListView.perform, configureJson, read]
            rfl
          rw [same]
          exact fits
      | ok update =>
          have same : (view.perform handler source (.configure body)).1 =
              view.configure handler source update := by
            simp only [ListView.perform, configureJson, read]
            rfl
          rw [same] at small ⊢
          exact fits.configure sound (fun _ => SettingsUpdate.ofJson_start read) small
  | newFilter => exact fits
  | addFilter body => exact fits.addFilter body
  | setFilter id body =>
      refine fits.answered fun result success => ?_
      obtain ⟨changed, done, rfl⟩ := of_map_ok success
      exact changeFilter_start done
  | removeFilter id =>
      refine fits.answered fun result success => ?_
      obtain ⟨removed, done, rfl⟩ := of_map_ok success
      exact removeFilter_start done
  | clearFilters => exact zero_lt_signedLimit
  | page start stop => exact fits
  | reset =>
      refine fits.answered fun result success => ?_
      obtain ⟨stopped, done, rfl⟩ := of_map_ok success
      unfold ListView.reset at done
      split at done
      · cases done
      · rw [← Except.ok.inj done]
        exact zero_lt_signedLimit
  | reload =>
      show (view.reload handler source).StartFits
      unfold ListView.reload
      split
      · exact fits
      · exact zero_lt_signedLimit
  | stop => exact zero_lt_signedLimit

theorem hearAll_settings (handler : Handler Ref) (view : ListView Ref) (items : List Ref)
    (changed : PropertySet) :
    (view.hearAllUpdated handler items changed).settings = view.settings := by
  unfold hearAllUpdated
  induction items generalizing view with
  | nil => rfl
  | cons item rest ih =>
      exact (ih (view.hearUpdated handler item changed)).trans
        (hear_settings handler view .update item changed)

theorem StartFits.meet (fits : view.StartFits) {occasion : Occasion Ref}
    (sound : view.Sound occasion.handler.key) (requested : occasion.Requested)
    (small : (view.meet occasion).view.rows.items.length < signedLimit) :
    (view.meet occasion).view.StartFits := by
  unfold ListView.meet at small ⊢
  split at small
  · exact (congrArg ViewSettings.rangeStart (hear_settings _ view _ _ _)).trans_lt fits
  · exact (congrArg ViewSettings.rangeStart (hearAll_settings _ view _ _)).trans_lt fits
  · rename_i act acted
    have asked := requested act acted
    cases act with
    | command command => exact fits.perform sound command small
    | configure update =>
        obtain ⟨table, body, read⟩ := asked
        exact fits.configure sound (fun _ => SettingsUpdate.ofJson_start read) small
    | setFilter id filter =>
        simp only [ListView.act]
        split
        · rename_i set
          exact setFilter_start set
        · exact fits

/-- In a run of requests and reports the window starts where it fits, as long as the items do. -/
theorem StartFits.live {key : Ref → Nat} {occasions : List (Occasion Ref)}
    (keyed : ∀ occasion ∈ occasions, occasion.handler.key = key)
    (requested : ∀ occasion ∈ occasions, occasion.Requested)
    (small : ∀ past, past <+: occasions →
      (({} : ListView Ref).live past).view.rows.items.length < signedLimit) :
    (({} : ListView Ref).live occasions).view.StartFits := by
  -- By the last occasion: the bound on the items is one on every past.
  induction occasions using List.reverseRecOn with
  | nil => exact zero_lt_signedLimit
  | append_singleton past occasion ih =>
      obtain ⟨earlier, last⟩ := List.forall_mem_append.mp keyed
      obtain ⟨asked, request⟩ := List.forall_mem_append.mp requested
      have fits := ih earlier asked fun before inside =>
        small before (inside.trans (List.prefix_append past [occasion]))
      have sound : (({} : ListView Ref).live past).view.Sound occasion.handler.key :=
        last occasion (List.mem_singleton_self occasion) ▸ Sound.start.live earlier
      have whole := small _ (List.prefix_refl (past ++ [occasion]))
      rw [live_concat] at whole ⊢
      exact fits.meet sound (request occasion (List.mem_singleton_self occasion)) whole

theorem StartFits.flushing (fits : view.StartFits) {act : ViewAct} (requested : act.Requested)
    (flushes : view.flushing handler act = some before) : before.StartFits := by
  have ended {update : SettingsUpdate} (ends : view.endOfPause update = some before)
      (asked : ∀ start, update.rangeStart = some start → start < signedLimit) :
      before.StartFits := by
    unfold endOfPause at ends
    split at ends
    · rw [← Option.some.inj ends]
      exact fits.set asked
    · cases ends
  unfold ListView.flushing at flushes
  split at flushes
  · rwa [← Option.some.inj flushes]
  · split at flushes
    · rename_i read
      exact ended flushes fun _ => SettingsUpdate.ofJson_start read
    · cases flushes
  · obtain ⟨table, body, read⟩ := requested
    exact ended flushes fun _ => SettingsUpdate.ofJson_start read
  · cases flushes

/-- The window is a part of the list, even if its end is past all numbers. -/
theorem slice?_window {matching : List Ref} (start count : Nat)
    (inside : start ≤ matching.length) (few : matching.length < UInt64.size) :
    Word.slice? matching start (min (Word.addSaturating start count) matching.length) =
      some ((matching.drop start).take count) := by
  have forward : start ≤ min (Word.addSaturating start count) matching.length := by
    unfold Word.addSaturating
    omega
  rw [Word.slice?_eq forward (Nat.min_le_right _ _), List.drop_take, Option.some_inj,
    List.take_eq_take_iff, List.length_drop, Word.addSaturating]
  omega

theorem concluded_eq (handler : Handler Ref) (view : ListView Ref) (property : PropertyId) :
    let start := view.passOffset handler property
    view.concluded handler (view.passEnd handler property) start (view.passWindow handler property)
        ((start : Int) - view.settings.rangeStart) =
      (view.passed handler property,
        if (view.passDelta handler property).isEmpty then none
        else some (view.passDelta handler property)) := by
  have still : ((view.passOffset handler property : Int) - view.settings.rangeStart = 0) =
      (view.passOffset handler property = view.settings.rangeStart) := by
    rw [eq_iff_iff, Int.sub_eq_zero, Int.ofNat_inj]
  simp only [concluded, still]
  rfl

/-- A flush of a view with few items and changes stays within 64 bits. -/
theorem StartFits.flushed? (fits : view.StartFits) (sound : view.Sound handler.key)
    (few : view.changes.batch.changes.length < signedLimit)
    (small : (view.flush handler).view.rows.items.length < signedLimit) :
    view.flushed? handler = some (view.flushed handler) := by
  unfold ListView.flushed?
  split
  · rename_i property active sorted
    split
    · rename_i news
      have ready : view.Ready property := ⟨active, sorted, news⟩
      rw [flush_ready handler ready] at small
      have begun : view.settings.rangeStart < signedLimit := fits
      have offset := passOffset_lt sound small
      have items : (view.passEnd handler property).rows.items.length < signedLimit := small
      have fewer := (sound.passEnd property).matching_le
      have limit : signedLimit + signedLimit = UInt64.size := by decide
      -- Each change moves the start by one at most, and there is room for as many again.
      have room : (view.passStart handler property).start + view.changes.batch.changes.length <
          UInt64.size := by
        show view.settings.rangeStart + _ < _
        omega
      have inside : view.passOffset handler property ≤
          (view.passEnd handler property).rows.matching.length := by
        unfold passOffset
        dsimp only
        split <;> omega
      rw [FlushState.foldlM_applied? _ room]
      show (do
        let window ← Word.slice? (view.passEnd handler property).rows.matching
          (view.passOffset handler property)
          (min (Word.addSaturating (view.passOffset handler property) view.settings.maxCount)
            (view.passEnd handler property).rows.matching.length)
        let offset ← Word.difference? (view.passOffset handler property) view.settings.rangeStart
        some (view.concluded handler (view.passEnd handler property)
          (view.passOffset handler property) window offset)) = _
      rw [slice?_window _ _ inside (by omega), Word.difference?_eq offset begun,
        flushed_ready handler ready, ← concluded_eq]
      rfl
    · rename_i quiet
      rw [flushed_idle handler fun property ready => quiet ready.news]
  · rename_i neither
    rw [flushed_idle handler fun property ready => neither property ready.active ready.sorted]

theorem page?_eq (view : ListView Ref) (start stop : Nat) :
    view.page? start stop = some (view.page start stop) := by
  unfold page? page
  dsimp only
  split
  · rename_i past
    rw [List.drop_eq_nil_of_le (by rwa [List.length_take])]
  · rw [Word.slice?_eq (by omega) (Nat.min_le_right _ _), ← List.take_take, List.take_length]

def between (items : List Ref) (start stop : Nat) : List Ref :=
  (items.zipIdx.filter fun entry => start ≤ entry.2 ∧ entry.2 < stop).map (·.1)

theorem page_between (items : List Ref) (start stop : Nat) :
    (items.take stop).drop start = between items start stop := by
  have from_place (place : Nat) : (items.take (stop - place)).drop (start - place) =
      ((items.zipIdx place).filter fun entry => start ≤ entry.2 ∧ entry.2 < stop).map (·.1) := by
    induction items generalizing place with
    | nil => simp
    | cons item rest ih =>
        rw [List.zipIdx_cons, List.filter_cons]
        have later := ih (place + 1)
        by_cases before : place < stop
        · obtain ⟨more, same⟩ : ∃ more, stop - place = more + 1 := ⟨stop - place - 1, by omega⟩
          have next : stop - (place + 1) = more := by omega
          rw [next] at later
          rw [same, List.take_succ_cons]
          by_cases inside : start ≤ place
          · have here : start - place = 0 := by omega
            have here' : start - (place + 1) = 0 := by omega
            rw [here', List.drop_zero] at later
            simp [here, inside, before, later]
          · obtain ⟨skip, same⟩ : ∃ skip, start - place = skip + 1 := ⟨start - place - 1, by omega⟩
            have next : start - (place + 1) = skip := by omega
            rw [next] at later
            simp [same, inside, later]
        · have none : stop - place = 0 := by omega
          have none' : stop - (place + 1) = 0 := by omega
          rw [none', List.take_zero, List.drop_nil] at later
          rw [none, List.take_zero, List.drop_nil, if_neg (by simp [before])]
          exact later
  exact from_place 0

end ListView

open ListView

/-- In any run of reports and requests, as long as fewer items are known than numbers with a sign can
count: a flush of fewer changes than that never moves the start of the window past what 64 bits hold
or below zero, takes a window that is a part of the list, and tells a move that fits. A page is a part
of the list, too, whatever places are asked for, and has the items at exactly these places. -/
theorem flush_arithmetic_safe (key : Ref → Nat) (occasions : List (Occasion Ref))
    (keyed : ∀ occasion ∈ occasions, occasion.handler.key = key)
    (requested : ∀ occasion ∈ occasions, occasion.Requested)
    (small : ∀ past, past <+: occasions →
      (({} : ListView Ref).live past).view.rows.items.length < signedLimit) :
    let view := (({} : ListView Ref).live occasions).view
    (∀ start stop, view.page? start stop = some (view.page start stop) ∧
        view.page start stop = between view.rows.matching start stop) ∧
      ∀ (handler : Handler Ref) (act : ViewAct) (before : ListView Ref),
        handler.key = key → act.Requested → view.flushing handler act = some before →
        before.changes.batch.changes.length < signedLimit →
        (before.flush handler).view.rows.items.length < signedLimit →
          before.flushed? handler = some (before.flushed handler) := by
  intro view
  refine ⟨fun start stop => ⟨view.page?_eq start stop, page_between _ start stop⟩, ?_⟩
  rintro handler act before rfl asked flushes few still
  have sound : view.Sound handler.key := Sound.start.live keyed
  have motions : Motions handler [] ⟨fun _ => False, False⟩ view before [] :=
    flushing_motions flushes
  have reached := motions.keep (Sound handler.key) (fun _ _ _ motion kept => kept.motion motion) sound
  exact ((StartFits.live keyed requested small).flushing asked flushes).flushed? reached few still

def Entry.sampleRequests : List (Occasion Nat) :=
  let on (event : ViewEvent Nat) : Occasion Nat := ⟨Entry.tagged fun id => id, [1, 2, 3], event⟩
  let settings := Json.ofFields [("range_start", .integer (signedLimit - 1 : Nat)),
    ("max_count", .integer (UInt64.size - 1 : Nat)), ("sort_property", .string "tag")]
  [on (.acted (.command (.configure settings))), on (.heard .remove 2 []), on (.heard .add 4 [])]

theorem sampleRequests_safe :
    let handler := Entry.tagged fun id => id
    let view := (({} : ListView Nat).live Entry.sampleRequests).view
    view.settings.rangeStart = signedLimit - 1 ∧ view.settings.maxCount = UInt64.size - 1 ∧
      view.changes.batch.changes.length = 2 ∧
      (view.page? 1 (UInt64.size - 1) = some (view.page 1 (UInt64.size - 1)) ∧
        view.page 1 (UInt64.size - 1) = between view.rows.matching 1 (UInt64.size - 1)) ∧
      view.flushed? handler = some (view.flushed handler) := by
  intro handler view
  have keyed : ∀ occasion ∈ Entry.sampleRequests, occasion.handler.key = handler.key := by
    simp [Entry.sampleRequests]
    rfl
  have requested : ∀ occasion ∈ Entry.sampleRequests, occasion.Requested := by
    rintro occasion member act acted
    simp only [Entry.sampleRequests, List.mem_cons, List.not_mem_nil, or_false] at member
    rcases member with rfl | rfl | rfl
    · cases acted
      trivial
    · cases acted
    · cases acted
  have small : ∀ past ∈ Entry.sampleRequests.inits,
      (({} : ListView Nat).live past).view.rows.items.length < signedLimit := by decide +kernel
  obtain ⟨pages, flushes⟩ := flush_arithmetic_safe handler.key Entry.sampleRequests keyed requested
    fun past inside => small past ((List.mem_inits past _).mpr inside)
  exact ⟨by decide +kernel, by decide +kernel, by decide +kernel, pages 1 (UInt64.size - 1),
    flushes handler (.command .flush) view rfl trivial rfl (by decide +kernel) (by decide +kernel)⟩

/-- The window starts over at the top, and its move is as far back as can be told. -/
example :
    let view := (({} : ListView Nat).live Entry.sampleRequests).view
    let after := view.flushed (Entry.tagged fun id => id)
    after.1.rows.window = [1, 3, 4] ∧
      after.2.bind (·.rangeOffset) = some (1 - (signedLimit : Int)) := by decide +kernel

end LiveList
