import LiveList.View.Lifecycle

/-!
Commands to a view: everything that its owner can ask of it, as data.
-/

namespace LiveList

inductive ViewCommand where
  | flush
  | configure (body : Json)
  | newFilter
  | addFilter (body : Json)
  | setFilter (id : Nat) (body : Json)
  | removeFilter (id : Nat)
  | clearFilters
  /-- The items from one place up to before another. -/
  | page (start stop : Nat)
  | reset
  | reload
  | stop

inductive ViewAnswer where
  | done
  /-- Whether a flush had anything to tell. -/
  | flushed (told : Bool)
  | filter (id : Nat)
  | items (items : List Json)
  | failed (error : ViewError)

def ViewAnswer.ofAdded : Except ViewError Nat → ViewAnswer
  | .ok id => .filter id
  | .error error => .failed error

namespace ListView

variable {Ref : Type}

def answered (view : ListView Ref) : Except ViewError (ViewStep Ref × ViewAnswer) →
    ViewStep Ref × ViewAnswer
  | .ok result => result
  | .error error => ({ view }, .failed error)

def perform (handler : Handler Ref) (source : List Ref) (view : ListView Ref) :
    ViewCommand → ViewStep Ref × ViewAnswer
  | .flush =>
      let step := view.flush handler
      (step, .flushed !step.effects.isEmpty)
  | .configure body =>
      view.answered ((view.configureJson handler source body).map (·, .done))
  | .newFilter =>
      let (id, view) := view.addEmptyFilter
      ({ view }, .filter id)
  | .addFilter body =>
      let (view, added) := view.addFilter handler body
      ({ view }, .ofAdded added)
  | .setFilter id body =>
      view.answered ((view.changeFilter handler id body).map fun view => ({ view }, .done))
  | .removeFilter id =>
      view.answered ((view.removeFilter handler id).map fun view => ({ view }, .done))
  | .clearFilters => ({ view := view.clearFilters handler }, .done)
  | .page start stop => ({ view }, .items (view.pageJson handler start stop))
  | .reset => view.answered (view.reset.map (·, .done))
  | .reload => ({ view := view.reload handler source }, .done)
  | .stop => (view.stop, .done)

end ListView

end LiveList
