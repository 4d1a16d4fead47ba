import LiveList.Service.Requests

/-!
What is done for a request once its route was chosen. It may be refused for many reasons, but its
method, which went into the choice, is no longer one of them.
-/

namespace LiveList

/-- Whatever was refused, it was not the method. -/
def Allows {Value : Type} (outcome : Except RequestError Value) : Prop :=
  ∀ method, outcome ≠ .error (.methodNotAllowed method)

namespace Allows

variable {First Last : Type} {outcome : Except RequestError First}

theorem ok (value : First) : Allows (.ok value : Except RequestError First) := nofun

theorem error {error : RequestError} (allows : Allows (.error error : Except RequestError First)) :
    Allows (.error error : Except RequestError Last) :=
  fun method same => allows method (congrArg _ (Except.error.inj same))

theorem bind {rest : First → Except RequestError Last} (first : Allows outcome)
    (last : ∀ value, Allows (rest value)) : Allows (outcome >>= rest) := by
  cases outcome with
  | ok value => exact last value
  | error error => exact first.error

theorem map (change : First → Last) (allows : Allows outcome) : Allows (change <$> outcome) := by
  cases outcome with
  | ok value => exact .ok _
  | error error => exact allows.error

theorem ofSource (outcome : Except SourceError First) :
    Allows (outcome.mapError RequestError.source) := by
  cases outcome <;> exact nofun

theorem proceed {Owner : Type} {owner : Owner}
    {next : First → Published Owner (Except RequestError Last)} (read : Allows outcome)
    (rest : ∀ value, Allows (next value).result) :
    Allows (Published.proceed owner outcome next).result := by
  cases outcome with
  | ok value => exact rest value
  | error error => exact read.error

end Allows

section Readers

variable {Value : Type} (request : Request) (captured : Captured)

theorem Request.readField_allows (name : String) (read : Field.Reader Value) (found : Json) :
    Allows (readField name read found) := by
  unfold readField
  split <;> exact nofun

theorem Request.optional_allows (name : String) (read : Field.Reader Value) :
    Allows (request.optional name read) := by
  unfold optional
  split
  · exact nofun
  · exact (readField_allows _ _ _).map _

theorem Request.field_allows (name : String) (read : Field.Reader Value) :
    Allows (request.field name read) := by
  refine (request.optional_allows name read).bind fun value => ?_
  cases value <;> exact nofun

theorem Request.nullable_allows (name : String) (read : Field.Reader Value) :
    Allows (request.nullable name read) := by
  unfold nullable
  split
  · exact nofun
  · exact nofun
  · exact (readField_allows _ _ _).map _

theorem Captured.number_allows (limit index : Nat) : Allows (captured.number limit index) := by
  unfold number
  split
  · exact nofun
  · split <;> exact nofun

theorem Captured.page_allows (page : Nat → Nat → Value) :
    Allows (do
      let start ← captured.place 0
      let count ← captured.place 1
      pure (page start count)) := by
  refine (captured.number_allows _ _).bind fun start => ?_
  exact (captured.number_allows _ _).bind fun count => nofun

theorem Queue.requestedPriority_allows : Allows (requestedPriority request) := by
  refine (request.field_allows _ _).bind fun id => ?_
  split <;> exact nofun

theorem Queue.requestedBundle_allows (isFile : Bool) : Allows (requestedBundle request isFile) := by
  refine (request.field_allows _ _).bind fun name => ?_
  refine (request.field_allows _ _).bind fun target => ?_
  refine (request.field_allows _ _).bind fun size => ?_
  refine (request.optional_allows _ _).bind fun priority => ?_
  cases priority with
  | none => exact nofun
  | some => exact (requestedPriority_allows request).bind fun _ => nofun

theorem Share.requestedUpdate_allows : Allows (requestedUpdate request) := by
  iterate 3 refine (request.optional_allows _ _).bind fun _ => ?_
  exact nofun

theorem HubList.requestedUpdate_allows : Allows (requestedUpdate request) := by
  iterate 4 refine (request.optional_allows _ _).bind fun _ => ?_
  refine (request.nullable_allows _ _).bind fun _ => ?_
  iterate 4 refine (request.optional_allows _ _).bind fun _ => ?_
  exact nofun

theorem ViewAction.command_allows (action : ViewAction) (body : Json) :
    Allows (action.command captured body) := by
  cases action with
  | addFilter | configure | reset => exact nofun
  | setFilter | removeFilter => exact (captured.number_allows _ _).map _
  | page => exact captured.page_allows _

theorem ViewAnswer.response_allows (answer : ViewAnswer) : Allows answer.response := by
  cases answer <;> exact nofun

theorem EventAction.apply_allows (action : EventAction) (subscriptions : Subscriptions) :
    Allows (action.apply captured subscriptions) := by
  have check (name : String) : Allows (subscriptions.check name) := by
    unfold Subscriptions.check
    split <;> exact nofun
  cases action <;> exact (check _).bind fun _ => nofun

end Readers

section Owners

variable (captured : Captured) (request : Request)

theorem Queue.serve_allows (queue : Queue) (now : Nat) (action : QueueAction) :
    Allows (queue.serve now action captured request).result := by
  cases action with
  | page => exact .map _ (captured.page_allows _)
  | removeFinished => exact nofun
  | setPriorityAll => exact .proceed (requestedPriority_allows request) fun _ => nofun
  | get =>
      refine .map _ ((captured.number_allows _ _).bind fun token => ?_)
      split <;> exact nofun
  | remove =>
      refine .proceed ((captured.number_allows _ _).bind fun token => ?_) fun _ => nofun
      exact .ofSource _
  | setPriority =>
      refine .proceed ((captured.number_allows _ _).bind fun token => ?_) fun _ => nofun
      exact (requestedPriority_allows request).bind fun _ => .ofSource _
  | addFile | addDirectory =>
      refine .proceed ((requestedBundle_allows request _).bind fun params => ?_) fun _ => nofun
      exact .ofSource _

theorem Share.serve_allows (share : Share) (action : ShareAction) :
    Allows (share.serve action captured request).result := by
  cases action with
  | list => exact nofun
  | add =>
      refine .proceed ((request.field_allows _ _).bind fun path => ?_) fun _ => nofun
      exact (requestedUpdate_allows request).bind fun _ => .ofSource _
  | update =>
      refine .proceed ((requestedUpdate_allows request).bind fun update => ?_) fun updated => ?_
      · split
        · exact nofun
        · refine (captured.number_allows _ _).bind fun token => ?_
          exact (Allows.ofSource _).bind fun _ => nofun
      · simp only [Published.respond]
        split <;> exact nofun
  | remove | refresh =>
      refine .proceed ((captured.number_allows _ _).bind fun token => ?_) fun _ => nofun
      exact .ofSource _

theorem HubList.serve_allows (hubs : HubList) (action : HubAction) :
    Allows (hubs.serve action captured request).result := by
  cases action with
  | page => exact .map _ (captured.page_allows _)
  | add =>
      refine .proceed ((requestedUpdate_allows request).bind fun update => ?_) fun _ => nofun
      exact .ofSource _
  | get =>
      refine .map _ ((captured.number_allows _ _).bind fun token => ?_)
      split <;> exact nofun
  | update =>
      refine .proceed ((captured.number_allows _ _).bind fun token => ?_) fun _ => nofun
      exact (requestedUpdate_allows request).bind fun _ => .ofSource _
  | remove =>
      refine .proceed ((captured.number_allows _ _).bind fun token => ?_) fun _ => nofun
      exact .ofSource _

theorem Search.serve_allows (search : Search) (action : SearchAction) :
    Allows (search.serve action captured request).result := by
  cases action with
  | start =>
      refine .proceed ((request.field_allows _ _).bind fun query => ?_) fun _ => nofun
      split <;> exact nofun
  | page => exact .map _ (captured.page_allows _)
  | clear => exact nofun
  | get =>
      refine .map _ ((captured.number_allows _ _).bind fun token => ?_)
      split <;> exact nofun

end Owners

namespace Service

variable {Value : Type} (service : Service) {read : Except RequestError Value}
  {next : Value → Service × Except RequestError Response}

theorem proceed_allows (allows : Allows read) (rest : ∀ value, Allows (next value).2) :
    Allows (service.proceed read next).2 := by
  cases read with
  | ok value => exact rest value
  | error error => exact allows.error

theorem serveView_allows (id : Nat) (action : ViewAction) (captured : Captured) (body : Json) :
    Allows (service.serveView id action captured body).2 :=
  service.proceed_allows (action.command_allows captured body) fun _ =>
    ViewAnswer.response_allows _

theorem serveEvents_allows (session : Nat) (action : EventAction) (captured : Captured)
    (subscriptions : Subscriptions) (put : Subscriptions → Modules) :
    Allows (service.serveEvents session action captured subscriptions put).2 :=
  service.proceed_allows (action.apply_allows captured subscriptions) fun _ => nofun

end Service

end LiveList
