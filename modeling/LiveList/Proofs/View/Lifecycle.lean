import LiveList.Entry.Basic
import LiveList.Proofs.Signal
import LiveList.Proofs.View.Ticking
import LiveList.View.Attached

/-!
The life of a view at its source. The phase, the setting for pauses, the timer, the connection to the
source and the news of activations change in separate steps, in five operations; after every one of
them they tell the same story.
-/

namespace LiveList

open Outcome

variable {Ref : Type}

namespace ListView

variable {handler : Handler Ref} {source : List Ref} {view after : ListView Ref}
  {permit : Permit Ref} {effects : List ViewEffect}

def KeepsPace (view after : ListView Ref) : Prop :=
  after.phase = view.phase ∧ after.settings.paused = view.settings.paused

theorem flush_pace (handler : Handler Ref) (view : ListView Ref) :
    view.KeepsPace (view.flush handler).view := by
  by_cases runs : ∃ property, view.Ready property
  · obtain ⟨property, ready⟩ := runs
    rw [flush_ready handler ready]
    exact ⟨rfl, rfl⟩
  · rw [flush_idle handler (not_exists.mp runs)]
    exact ⟨rfl, rfl⟩

theorem hear_pace (handler : Handler Ref) (view : ListView Ref) (kind : ChangeKind) (item : Ref)
    (changed : PropertySet) : view.KeepsPace (view.hear handler kind item changed) :=
  ⟨view.hear_phase handler kind item changed,
    congrArg (·.paused) (view.hear_settings handler kind item changed)⟩

theorem hearAll_pace (handler : Handler Ref) (view : ListView Ref) (items : List Ref)
    (changed : PropertySet) : view.KeepsPace (view.hearAllUpdated handler items changed) := by
  unfold hearAllUpdated
  induction items generalizing view with
  | nil => exact ⟨rfl, rfl⟩
  | cons item rest ih =>
      have first := view.hear_pace handler .update item changed
      have later := ih (view.hearUpdated handler item changed)
      exact ⟨later.1.trans first.1, later.2.trans first.2⟩

def Paced (view : ListView Ref) : Prop := view.settings.paused = true ↔ view.phase = .paused

theorem Paced.keep (paced : view.Paced) (same : view.KeepsPace after) : after.Paced := by
  unfold Paced
  rwa [same.1, same.2]

theorem paused_apply (settings : ViewSettings) (update : SettingsUpdate) :
    (settings.apply update).paused = update.paused.getD settings.paused := by
  obtain ⟨start, count, property, ascending, paused⟩ := update
  cases start <;> cases count <;> cases property <;> cases ascending <;> cases paused <;> rfl

/-- Settings set the pace: what they say of pauses is what becomes of the phase. -/
theorem Paced.configure (paced : view.Paced) (update : SettingsUpdate) :
    (view.configure handler source update).view.Paced := by
  have paused := paused_apply view.settings update
  unfold ListView.configure
  by_cases inactive : view.phase = .inactive
  · have before : view.settings.paused = false := by simpa [Paced, inactive] using paced
    rw [before] at paused
    simp only [inactive, ↓reduceIte]
    cases wish : update.paused with
    | none => simp [Paced, activate, refilter, paused, wish]
    | some pausing => cases pausing <;> simp [Paced, activate, refilter, paused, wish]
  · simp only [inactive, ↓reduceIte]
    cases wish : update.paused with
    | none =>
        rw [wish] at paused
        exact paced.keep ⟨rfl, paused⟩
    | some pausing =>
        rw [wish] at paused
        cases pausing with
        | true =>
            by_cases active : view.phase = .active
            · simp [Paced, ListView.pause, active, paused]
            · have there : view.phase = .paused := by
                cases phase : view.phase <;> simp_all
              simp [Paced, ListView.pause, there, paused]
        | false =>
            by_cases there : view.phase = .paused
            · simp only [ListView.resume, there, ↓reduceIte]
              split
              · refine Paced.keep ?_ (flush_pace handler _)
                simp [Paced, paused]
              · simp [Paced, paused]
            · simp [Paced, ListView.resume, there, paused]

theorem setFilter_pace {id : Nat} {filter : Option Filter}
    (success : view.setFilter handler id filter = .ok after) :
    view.KeepsPace after := by
  obtain ⟨filters, _, done⟩ := of_bind_ok success
  rw [← of_pure_ok done]
  exact ⟨rfl, rfl⟩

theorem addFilter_pace (body : Json) : view.KeepsPace (view.addFilter handler body).1 := by
  have added : view.KeepsPace view.addEmptyFilter.2 := ⟨rfl, rfl⟩
  unfold ListView.addFilter
  split
  · exact ⟨rfl, rfl⟩
  · exact added
  · dsimp only
    split
    · rename_i set
      have same := setFilter_pace set
      exact same
    · exact added

theorem changeFilter_pace {id : Nat} {body : Json}
    (success : view.changeFilter handler id body = .ok after) :
    view.KeepsPace after := by
  unfold changeFilter at success
  split at success
  · obtain ⟨filter, _, set⟩ := of_bind_ok success
    exact setFilter_pace set
  · cases success

theorem removeFilter_pace {id : Nat} (success : view.removeFilter handler id = .ok after) :
    view.KeepsPace after := by
  obtain ⟨filters, _, done⟩ := of_bind_ok success
  rw [← of_pure_ok done]
  exact ⟨rfl, rfl⟩

theorem Paced.answered (paced : view.Paced)
    {request : Except ViewError (ViewStep Ref × ViewAnswer)}
    (success : ∀ result, request = .ok result → result.1.view.Paced) :
    (view.answered request).1.view.Paced := by
  cases request with
  | error error => exact paced
  | ok result => exact success result rfl

theorem stop_paced (view : ListView Ref) : view.stop.view.Paced := by
  simp [Paced, ListView.stop]

theorem Paced.perform (paced : view.Paced) (command : ViewCommand) :
    (view.perform handler source command).1.view.Paced := by
  cases command with
  | flush => exact paced.keep (view.flush_pace handler)
  | configure body =>
      refine paced.answered fun result success => ?_
      obtain ⟨step, configured, rfl⟩ := of_map_ok success
      obtain ⟨update, _, done⟩ := of_bind_ok configured
      rw [← of_pure_ok done]
      exact paced.configure update
  | newFilter => exact paced
  | addFilter body => exact paced.keep (addFilter_pace body)
  | setFilter id body =>
      refine paced.answered fun result success => ?_
      obtain ⟨changed, done, rfl⟩ := of_map_ok success
      exact paced.keep (changeFilter_pace done)
  | removeFilter id =>
      refine paced.answered fun result success => ?_
      obtain ⟨removed, done, rfl⟩ := of_map_ok success
      exact paced.keep (removeFilter_pace done)
  | clearFilters => exact paced
  | page start stop => exact paced
  | reset =>
      refine paced.answered fun result success => ?_
      obtain ⟨stopped, done, rfl⟩ := of_map_ok success
      unfold ListView.reset at done
      split at done
      · cases done
      · rw [← Except.ok.inj done]
        exact view.stop_paced
  | reload =>
      show (view.reload handler source).Paced
      unfold ListView.reload
      split <;> exact paced
  | stop => exact view.stop_paced

theorem Paced.meet (paced : view.Paced) (occasion : Occasion Ref) :
    (view.meet occasion).view.Paced := by
  unfold ListView.meet
  split
  · exact paced.keep (view.hear_pace _ _ _ _)
  · exact paced.keep (view.hearAll_pace _ _ _)
  · rename_i act _
    cases act with
    | command command => exact paced.perform command
    | configure update => exact paced.configure update
    | setFilter id filter =>
        simp only [ListView.act]
        split
        · rename_i set
          exact paced.keep (setFilter_pace set)
        · exact paced

structure Bare (view : ListView Ref) : Prop where
  items : view.phase = .inactive → view.rows.items = []
  index : view.phase = .inactive → view.rows.index = []
  matching : view.phase = .inactive → view.rows.matching = []
  matchingKeys : view.phase = .inactive → view.rows.matchingKeys = []
  changes : view.phase = .inactive → view.changes = {}

theorem Bare.there (there : view.phase ≠ .inactive) : view.Bare :=
  ⟨(absurd · there), (absurd · there), (absurd · there), (absurd · there), (absurd · there)⟩

theorem Bare.start : ({} : ListView Ref).Bare :=
  ⟨fun _ => rfl, fun _ => rfl, fun _ => rfl, fun _ => rfl, fun _ => rfl⟩

theorem Bare.stop : view.stop.view.Bare :=
  ⟨fun _ => rfl, fun _ => rfl, fun _ => rfl, fun _ => rfl, fun _ => rfl⟩

theorem Bare.hear (bare : view.Bare) (kind : ChangeKind) (item : Ref) (changed : PropertySet) :
    (view.hear handler kind item changed).Bare := by
  unfold ListView.hear
  split
  · exact bare
  · rename_i there
    exact .there there

theorem Bare.hearAll (bare : view.Bare) (items : List Ref) (changed : PropertySet) :
    (view.hearAllUpdated handler items changed).Bare := by
  unfold hearAllUpdated
  induction items generalizing view with
  | nil => exact bare
  | cons item rest ih => exact ih (bare.hear .update item changed)

theorem Bare.motion (bare : view.Bare) (motion : Motion handler source permit view after effects) :
    after.Bare := by
  cases motion with
  | set | addEmptyFilter => exact ⟨bare.items, bare.index, bare.matching, bare.matchingKeys, bare.changes⟩
  | filter filters =>
      -- Filtering no items anew gives no rows.
      have none (inactive : view.phase = .inactive) :
          (view.rows.items.map (·.2)).filter (Filter.passAll filters.compiled handler) = [] := by
        rw [bare.items inactive]
        rfl
      exact ⟨bare.items, bare.index, none, fun inactive => congrArg (List.map _) (none inactive),
        bare.changes⟩
  | activate paused =>
      refine .there ?_
      cases paused <;> simp [ListView.activate, ListView.refilter]
  | pause =>
      unfold ListView.pause
      split
      · exact .there (by simp)
      · exact bare
  | unpause => exact .there (by simp [unpaused])
  | flush =>
      by_cases runs : ∃ property, view.Ready property
      · obtain ⟨property, ready⟩ := runs
        exact .there ((view.flush_pace handler).1 ▸ ready.there)
      · rwa [flush_idle handler (not_exists.mp runs)]
  | stop => exact .stop
  | reload =>
      unfold ListView.reload
      split
      · exact bare
      · rename_i there
        exact .there there

end ListView

end LiveList
