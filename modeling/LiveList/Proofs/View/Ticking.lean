import LiveList.Proofs.View.Acts
import LiveList.Proofs.View.Passes

/-!
The timer of a view. It runs exactly while the view is active, so the end of a pause makes it tick at
once, and whatever flushes a view leaves nothing waiting.
-/

namespace LiveList.ListView

variable {Ref : Type} {handler : Handler Ref} {source : List Ref} {view after : ListView Ref}
  {permit : Permit Ref} {effects : List ViewEffect}

def Timed (view : ListView Ref) : Prop := view.timer.running = true ↔ view.phase = .active

theorem Timed.start : ({} : ListView Ref).Timed := by
  simp [Timed]

theorem Timed.stop : view.stop.view.Timed := by
  simp [Timed, ListView.stop, Timer.stop]

theorem Timed.hear (timed : view.Timed) (kind : ChangeKind) (item : Ref) (changed : PropertySet) :
    (view.hear handler kind item changed).Timed := by
  unfold ListView.hear
  split <;> exact timed

theorem Timed.hearAll (timed : view.Timed) (items : List Ref) (changed : PropertySet) :
    (view.hearAllUpdated handler items changed).Timed := by
  unfold hearAllUpdated
  induction items generalizing view with
  | nil => exact timed
  | cons item rest ih => exact ih (timed.hear .update item changed)

theorem Timed.flush (timed : view.Timed) : (view.flush handler).view.Timed := by
  by_cases runs : ∃ property, view.Ready property
  · obtain ⟨property, ready⟩ := runs
    rw [flush_ready handler ready]
    exact timed
  · rw [flush_idle handler (not_exists.mp runs)]
    exact timed

theorem Timed.motion (timed : view.Timed)
    (motion : Motion handler source permit view after effects) : after.Timed := by
  cases motion with
  | set | addEmptyFilter | filter => exact timed
  | activate paused inactive =>
      have stopped : view.timer.running = false := by simpa [Timed, inactive] using timed
      cases paused with
      | true => simp [Timed, ListView.activate, ListView.refilter, stopped]
      | false => simp [Timed, ListView.activate, ListView.refilter, Timer.start, stopped]
  | pause =>
      unfold ListView.pause
      split
      · simp [Timed, Timer.stop]
      · exact timed
  | unpause paused =>
      unfold unpaused Timer.start Timed
      split
      · simpa using by assumption
      · simp
  | flush => exact timed.flush
  | stop => exact .stop
  | reload =>
      unfold ListView.reload
      split <;> exact timed

theorem Timed.live (timed : view.Timed) (occasions : List (Occasion Ref)) :
    (view.live occasions).view.Timed :=
  live_keep (fun _ => True) Timed (fun _ _ _ _ _ _ timed => timed.hear _ _ _)
    (fun _ _ _ _ _ _ _ motion timed => timed.motion motion) timed occasions fun _ _ => trivial

/-- The end of a pause flushes the view, as its timer has not been running. -/
theorem configure_flushes {update : SettingsUpdate} (ended : view.endOfPause update = some after)
    (timed : view.Timed) :
    view.configure handler source update = after.flush handler := by
  unfold endOfPause at ended
  split at ended
  · rename_i wish
    rw [← Option.some.inj ended]
    -- The timer of a paused view has stopped, so it starts now, and ticks at once.
    have there : view.phase ≠ .inactive := by simp [wish.1]
    have stopped : view.timer.running = false := by simpa [Timed, wish.1] using timed
    simp [configure, wish.1, wish.2, resume, Timer.start, stopped, unpaused]
  · cases ended

theorem act_flushes {act : ViewAct} (flushes : view.flushing handler act = some after)
    (timed : view.Timed) :
    view.act handler source act = after.flush handler := by
  unfold flushing at flushes
  split at flushes
  · rw [← Option.some.inj flushes]
    rfl
  · split at flushes
    · rename_i body _ update read
      have performed : view.act handler source (.command (.configure body)) =
          view.configure handler source update := by
        simp only [ListView.act, perform, configureJson, read]
        rfl
      rw [performed]
      exact configure_flushes flushes timed
    · cases flushes
  · exact configure_flushes flushes timed
  · cases flushes

/-- After a flush nothing waits, unless the view cannot be flushed. -/
theorem flush_quiet (active : (view.flush handler).view.phase = .active)
    (sorted : (view.flush handler).view.settings.sortProperty.isSome) :
    (view.flush handler).view.hasNews = false := by
  by_cases runs : ∃ property, view.Ready property
  · obtain ⟨property, ready⟩ := runs
    rw [flush_ready handler ready]
    exact passed_quiet handler
  · rw [flush_idle handler (not_exists.mp runs)] at active sorted ⊢
    obtain ⟨property, given⟩ := Option.isSome_iff_exists.mp sorted
    by_cases news : view.hasNews = true
    · exact absurd ⟨property, active, given, news⟩ runs
    · simpa using news

end LiveList.ListView
