import LiveList.Proofs.Outcome
import LiveList.View.Command

/-!
What the owner of a view can do with it, and the motions that every such act is made of. A fact
about views has to be shown for each motion only: acts, and runs of acts, are sequences of motions.
-/

namespace LiveList

open Outcome

inductive ViewAct where
  | command (command : ViewCommand)
  | configure (update : SettingsUpdate)
  | setFilter (id : Nat) (filter : Option Filter)

namespace ListView

variable {Ref : Type}

def act (handler : Handler Ref) (source : List Ref) (view : ListView Ref) : ViewAct → ViewStep Ref
  | .command command => (view.perform handler source command).1
  | .configure update => view.configure handler source update
  | .setFilter id filter =>
      match view.setFilter handler id filter with
      | .ok view => { view }
      | .error _ => { view }

def unpaused (view : ListView Ref) : ListView Ref :=
  { view with
    phase := .active
    rows := { view.rows with unsorted := true }
    timer := (view.timer.start true).2 }

/-- The view that settings flush, if they end a pause: the timer then ticks at once. -/
def endOfPause (view : ListView Ref) (update : SettingsUpdate) : Option (ListView Ref) :=
  if view.phase = .paused ∧ update.paused = some false then
    some (unpaused { view with settings := view.settings.apply update })
  else none

/-- The view that an act flushes, if it does: as it is by command, or at the end of a pause. -/
def flushing (handler : Handler Ref) (view : ListView Ref) : ViewAct → Option (ListView Ref)
  | .command .flush => some view
  | .command (.configure body) =>
      match SettingsUpdate.ofJson handler.table body with
      | .ok update => view.endOfPause update
      | .error _ => none
  | .configure update => view.endOfPause update
  | _ => none

/-- Which views may be flushed, and whether anything may be reloaded. -/
structure Permit (Ref : Type) where
  flush : ListView Ref → Prop
  reload : Prop

/-- A single change of a view by its owner. It flushes and reloads only what it is permitted to. -/
inductive Motion (handler : Handler Ref) (source : List Ref) (permit : Permit Ref) :
    ListView Ref → ListView Ref → List ViewEffect → Prop where
  | set (view) (update : SettingsUpdate) :
      Motion handler source permit view
        { view with settings := view.settings.apply update } []
  | addEmptyFilter (view) : Motion handler source permit view view.addEmptyFilter.2 []
  | filter (view) (filters : FilterSlots) :
      Motion handler source permit view
        (ListView.afterFilterChange handler { view with filters }) []
  | activate (view) (paused : Bool) (inactive : view.phase = .inactive) :
      Motion handler source permit view (view.activate handler source paused).view
        [.join, .activated true]
  | pause (view) : Motion handler source permit view view.pause []
  | unpause (view) (paused : view.phase = .paused) :
      Motion handler source permit view view.unpaused []
  | flush (view) (allowed : permit.flush view) :
      Motion handler source permit view (view.flush handler).view (view.flush handler).effects
  | stop (view) : Motion handler source permit view view.stop.view view.stop.effects
  | reload (view) (allowed : permit.reload) :
      Motion handler source permit view (view.reload handler source) []

inductive Motions (handler : Handler Ref) (source : List Ref) (permit : Permit Ref) :
    ListView Ref → ListView Ref → List ViewEffect → Prop where
  | rest (view) : Motions handler source permit view view []
  | next {before middle after : ListView Ref} {first later : List ViewEffect}
      (motion : Motion handler source permit before middle first)
      (motions : Motions handler source permit middle after later) :
      Motions handler source permit before after (first ++ later)

def permit (handler : Handler Ref) (view : ListView Ref) (act : ViewAct) : Permit Ref where
  flush before := view.flushing handler act = some before
  reload := act = .command .reload

variable {handler : Handler Ref} {source : List Ref} {permit : Permit Ref}
  {before middle after view : ListView Ref} {first later : List ViewEffect}

theorem Motion.alone (motion : Motion handler source permit before after first) :
    Motions handler source permit before after first := by
  have once := Motions.next motion (.rest after)
  rwa [List.append_nil] at once

theorem Motion.before_flush (motion : Motion handler source permit before middle [])
    (allowed : permit.flush middle) :
    Motions handler source permit before (middle.flush handler).view
      (middle.flush handler).effects :=
  .next motion (Motion.alone (.flush middle allowed))

theorem Motions.keep (holds : ListView Ref → Prop)
    (kept : ∀ before after effects, Motion handler source permit before after effects →
      holds before → holds after)
    (motions : Motions handler source permit before after later) (start : holds before) :
    holds after := by
  induction motions with
  | rest _ => exact start
  | next motion _ ih => exact ih (kept _ _ _ motion start)

theorem resume_motions (paused : view.phase = .paused) (allowed : permit.flush view.unpaused) :
    Motions handler source permit view (view.resume handler).view
      (view.resume handler).effects := by
  have motion : Motion handler source permit view view.unpaused [] := .unpause view paused
  simp only [resume, paused, ↓reduceIte]
  split
  · exact motion.before_flush allowed
  · exact motion.alone

theorem configure_motions (update : SettingsUpdate)
    (allowed : ∀ before, view.endOfPause update = some before → permit.flush before) :
    Motions handler source permit view (view.configure handler source update).view
      (view.configure handler source update).effects := by
  have set : Motion handler source permit view
      { view with settings := view.settings.apply update } [] := .set view update
  unfold configure
  by_cases inactive : view.phase = .inactive
  · simp only [inactive, ↓reduceIte]
    exact .next set (Motion.activate { view with settings := view.settings.apply update }
      (update.paused == some true) inactive).alone
  · simp only [inactive, ↓reduceIte]
    match wish : update.paused with
    | none => exact set.alone
    | some true => exact .next set (Motion.pause _).alone
    | some false =>
        by_cases paused : view.phase = .paused
        · have ended := allowed _ (if_pos ⟨paused, wish⟩)
          exact .next set (resume_motions (by exact paused) ended)
        · simp only [resume, paused, ↓reduceIte]
          exact set.alone

theorem setFilter_motions {id : Nat} {filter : Option Filter}
    (success : view.setFilter handler id filter = .ok after) :
    Motions handler source permit view after [] := by
  obtain ⟨filters, _, done⟩ := of_bind_ok success
  rw [← of_pure_ok done]
  exact (Motion.filter view filters).alone

theorem addFilter_motions (body : Json) :
    Motions handler source permit view (view.addFilter handler body).1 [] := by
  have added : Motion handler source permit view view.addEmptyFilter.2 [] := .addEmptyFilter view
  unfold addFilter
  split
  · exact .rest view
  · exact added.alone
  · dsimp only
    split
    · rename_i set
      exact .next added (setFilter_motions set)
    · exact added.alone

theorem changeFilter_motions {id : Nat} {body : Json}
    (success : view.changeFilter handler id body = .ok after) :
    Motions handler source permit view after [] := by
  unfold changeFilter at success
  split at success
  · obtain ⟨filter, _, set⟩ := of_bind_ok success
    exact setFilter_motions set
  · cases success

theorem removeFilter_motions {id : Nat} (success : view.removeFilter handler id = .ok after) :
    Motions handler source permit view after [] := by
  obtain ⟨filters, _, done⟩ := of_bind_ok success
  rw [← of_pure_ok done]
  exact (Motion.filter view filters).alone

/-- A command that fails leaves the view as it is, so only its success has to be looked at. -/
theorem answered_motions {request : Except ViewError (ViewStep Ref × ViewAnswer)}
    (success : ∀ result, request = .ok result →
      Motions handler source permit view result.1.view result.1.effects) :
    Motions handler source permit view (view.answered request).1.view
      (view.answered request).1.effects := by
  cases request with
  | error error => exact .rest view
  | ok result => exact success result rfl

theorem perform_motions (command : ViewCommand) :
    Motions handler source (view.permit handler (.command command)) view
      (view.perform handler source command).1.view
      (view.perform handler source command).1.effects := by
  cases command with
  | flush => exact (Motion.flush view rfl).alone
  | configure body =>
      refine answered_motions fun result success => ?_
      obtain ⟨step, configured, rfl⟩ := of_map_ok success
      obtain ⟨update, read, done⟩ := of_bind_ok configured
      rw [← of_pure_ok done]
      -- A request flushes what its settings flush.
      refine configure_motions update fun before ended => ?_
      simp only [permit, flushing, read, ended]
  | newFilter => exact (Motion.addEmptyFilter view).alone
  | addFilter body => exact addFilter_motions body
  | setFilter id body =>
      refine answered_motions fun result success => ?_
      obtain ⟨changed, done, rfl⟩ := of_map_ok success
      exact changeFilter_motions done
  | removeFilter id =>
      refine answered_motions fun result success => ?_
      obtain ⟨removed, done, rfl⟩ := of_map_ok success
      exact removeFilter_motions done
  | clearFilters => exact (Motion.filter view view.filters.clear).alone
  | page start stop => exact .rest view
  | reset =>
      refine answered_motions fun result success => ?_
      obtain ⟨stopped, done, rfl⟩ := of_map_ok success
      unfold reset at done
      split at done
      · cases done
      · rw [← Except.ok.inj done]
        exact (Motion.stop view).alone
  | reload => exact (Motion.reload view rfl).alone
  | stop => exact (Motion.stop view).alone

theorem act_motions (act : ViewAct) :
    Motions handler source (view.permit handler act) view (view.act handler source act).view
      (view.act handler source act).effects := by
  cases act with
  | command command => exact perform_motions command
  | configure update => exact configure_motions update fun before ended => ended
  | setFilter id filter =>
      simp only [ListView.act]
      split
      · rename_i final set
        exact setFilter_motions set
      · exact .rest view

/-- Nothing but settings and the end of a pause stands between an act and the flush of it. -/
theorem endOfPause_motions {update : SettingsUpdate} (ended : view.endOfPause update = some after) :
    Motions handler source permit view after [] := by
  unfold endOfPause at ended
  split at ended
  · rename_i wish
    rw [← Option.some.inj ended]
    exact .next (Motion.set view update) (Motion.unpause _ (by exact wish.1)).alone
  · cases ended

theorem flushing_motions {act : ViewAct} (flushes : view.flushing handler act = some after) :
    Motions handler source permit view after [] := by
  unfold flushing at flushes
  split at flushes
  · rw [← Option.some.inj flushes]
    exact .rest view
  · split at flushes
    · exact endOfPause_motions flushes
    · cases flushes
  · exact endOfPause_motions flushes
  · cases flushes

end ListView

inductive ViewEvent (Ref : Type) where
  | heard (kind : ChangeKind) (item : Ref) (changed : PropertySet)
  | heardAll (items : List Ref) (changed : PropertySet)
  | acted (act : ViewAct)

/-- An event, and the world it happens in: how items are read at that moment, and which of them the
source has. -/
structure Occasion (Ref : Type) where
  handler : Handler Ref
  source : List Ref
  event : ViewEvent Ref

namespace ListView

variable {Ref : Type}

def meet (view : ListView Ref) (occasion : Occasion Ref) : ViewStep Ref :=
  match occasion.event with
  | .heard kind item changed => { view := view.hear occasion.handler kind item changed }
  | .heardAll items changed => { view := view.hearAllUpdated occasion.handler items changed }
  | .acted act => view.act occasion.handler occasion.source act

def live (view : ListView Ref) : List (Occasion Ref) → ViewStep Ref
  | [] => { view }
  | occasion :: rest =>
      let step := view.meet occasion
      let last := live step.view rest
      { view := last.view, effects := step.effects ++ last.effects }

theorem live_concat (view : ListView Ref) (occasions : List (Occasion Ref))
    (occasion : Occasion Ref) : (view.live (occasions ++ [occasion])).view =
      ((view.live occasions).view.meet occasion).view := by
  induction occasions generalizing view with
  | nil => rfl
  | cons first rest ih => exact ih (view.meet first).view

section Hearing

variable (handler : Handler Ref) (view : ListView Ref) (kind : ChangeKind) (item : Ref)
  (changed : PropertySet)

theorem hear_phase : (view.hear handler kind item changed).phase = view.phase := by
  unfold ListView.hear
  split <;> rfl

theorem hear_settings : (view.hear handler kind item changed).settings = view.settings := by
  unfold ListView.hear
  split <;> rfl

theorem hear_rows : (view.hear handler kind item changed).rows = view.rows := by
  unfold ListView.hear
  split <;> rfl

end Hearing

theorem hearAll_rows (handler : Handler Ref) (view : ListView Ref) (items : List Ref)
    (changed : PropertySet) : (view.hearAllUpdated handler items changed).rows = view.rows := by
  unfold hearAllUpdated
  induction items generalizing view with
  | nil => rfl
  | cons item rest ih =>
      exact (ih (view.hearUpdated handler item changed)).trans
        (hear_rows handler view .update item changed)

/-- What every report and every motion keeps, for handlers of some kind, is kept by a whole run. -/
theorem live_keep (fits : Handler Ref → Prop) (holds : ListView Ref → Prop)
    (heard : ∀ handler view kind item changed, fits handler → holds view →
      holds (view.hear handler kind item changed))
    (moved : ∀ handler source permit before after effects, fits handler →
      Motion handler source permit before after effects → holds before → holds after)
    {view : ListView Ref} (start : holds view) (occasions : List (Occasion Ref))
    (fit : ∀ occasion ∈ occasions, fits occasion.handler) :
    holds (view.live occasions).view := by
  induction occasions generalizing view with
  | nil => exact start
  | cons occasion rest ih =>
      refine ih ?_ fun other member => fit other (List.mem_cons_of_mem occasion member)
      have fits := fit occasion List.mem_cons_self
      unfold ListView.meet
      split
      · exact heard _ _ _ _ _ fits start
      · rename_i items changed _
        unfold hearAllUpdated
        exact List.foldlRecOn items _ start fun view holds item _ =>
          heard _ _ _ _ _ fits holds
      · exact (act_motions _).keep holds (fun _ _ _ => moved _ _ _ _ _ _ fits) start

end ListView

end LiveList
