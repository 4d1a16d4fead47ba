import LiveList.View.Flush

/-!
The life of a view. The first request for settings activates it: it joins its source, takes in all
items and starts its timer, unless it is to be paused. Resetting tears it down again, and what was
set and told is forgotten.
-/

namespace LiveList.ListView

variable {Ref : Type}

def activate (handler : Handler Ref) (source : List Ref) (paused : Bool) (view : ListView Ref) :
    ViewStep Ref :=
  let view := { view with
    phase := if paused then .paused else .active
    rows := view.rows.insertAll handler source }
  let view := view.refilter handler
  let view := if paused then view else { view with timer := (view.timer.start false).2 }
  { view, effects := [.join, .activated true] }

def pause (view : ListView Ref) : ListView Ref :=
  if view.phase = .active then { view with phase := .paused, timer := view.timer.stop.2 } else view

/-- Goes on after a pause. The timer ticks at once, so the view is flushed. -/
def resume (handler : Handler Ref) (view : ListView Ref) : ViewStep Ref :=
  if view.phase = .paused then
    -- Items may have changed without a word, so their order is not relied on.
    let view := { view with phase := .active, rows := { view.rows with unsorted := true } }
    let (started, timer) := view.timer.start true
    let view := { view with timer }
    if started then view.flush handler else { view }
  else { view }

/-- Applies settings. An inactive view is activated by them, whatever they are. -/
def configure (handler : Handler Ref) (source : List Ref) (update : SettingsUpdate)
    (view : ListView Ref) : ViewStep Ref :=
  let view := { view with settings := view.settings.apply update }
  if view.phase = .inactive then view.activate handler source (update.paused == some true)
  else
    match update.paused with
    | some true => { view := view.pause }
    | some false => view.resume handler
    | none => { view }

def configureJson (handler : Handler Ref) (source : List Ref) (body : Json) (view : ListView Ref) :
    Except ViewError (ViewStep Ref) := do
  let update ← SettingsUpdate.ofJson handler.table body
  pure (view.configure handler source update)

/-- Tears a view down: it is as if it had never been activated. -/
def stop (view : ListView Ref) : ViewStep Ref :=
  { view := { timer := view.timer.stop.2 }
    effects := if view.phase = .inactive then [] else [.leave, .activated false] }

def reset (view : ListView Ref) : Except ViewError (ViewStep Ref) :=
  if view.phase = .inactive then .error .notActive else .ok view.stop

/-- Takes in all items of the source anew; waiting changes are dropped. -/
def reload (handler : Handler Ref) (source : List Ref) (view : ListView Ref) : ListView Ref :=
  if view.phase = .inactive then view
  else
    let view := { view with
      changes := {}
      rows := view.rows.clearItems.insertAll handler source }
    ListView.afterFilterChange handler view

end LiveList.ListView
