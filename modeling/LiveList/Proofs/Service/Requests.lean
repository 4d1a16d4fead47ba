import LiveList.Proofs.Assoc
import LiveList.Proofs.Outcome
import LiveList.Proofs.Request.Choice
import LiveList.Proofs.Share.Steps
import LiveList.Service.Requests

/-!
Requests that change nothing: those that are refused, and those that only look at something. The
service is the same afterwards in all its parts, which are the lists with their tokens, all that was
reported of them and sent, the views, the searches and the subscriptions.
-/

namespace LiveList

open Outcome

/-- What a request does to what it is about. If it is refused or only looks, all is as it was
before, and if it is not refused it is answered with success. -/
structure Careful {State : Type} (looks : Prop) (before after : State)
    (outcome : Except RequestError Response) : Prop where
  still : (looks ∨ ∃ error, outcome = .error error) → after = before
  success : ∀ response, outcome = .ok response → response.isSuccess = true

namespace Careful

variable {State : Type} {looks : Prop} {before after : State}
  {outcome : Except RequestError Response}

theorem refused (looks : Prop) (state : State) (error : RequestError) :
    Careful looks state state (.error error) where
  still _ := rfl
  success _ success := by cases success

theorem looked (looks : Prop) (state : State) (found : Except RequestError Json) :
    Careful looks state state (Response.ok <$> found) where
  still _ := rfl
  success response success := by
    obtain ⟨_, _, rfl⟩ := of_map_ok success
    rfl

theorem done {response : Response} (acts : ¬ looks) (good : response.isSuccess = true) :
    Careful looks before after (.ok response) where
  still reason := by
    rcases reason with reason | ⟨_, refused⟩
    · exact absurd reason acts
    · cases refused
  success _ success := by rw [← Except.ok.inj success, good]

theorem mono {fewer : Prop} (careful : Careful looks before after outcome)
    (less : fewer → looks) : Careful fewer before after outcome where
  still reason := careful.still (reason.imp_left less)
  success := careful.success

end Careful

/-! The owners of items -/

section Owners

variable {Owner Value : Type} {looks : Prop} {owner : Owner}
  {published : Published Owner (Except RequestError Response)}

/-- An owner that answers carefully is the same after a request that is refused or only looks, and
reports nothing. -/
abbrev Answers (looks : Prop) (owner : Owner)
    (published : Published Owner (Except RequestError Response)) : Prop :=
  Careful looks (owner, []) (published.owner, published.events) published.result

theorem Published.proceed_answers {read : Except RequestError Value}
    {next : Value → Published Owner (Except RequestError Response)}
    (answers : ∀ value, read = .ok value → Answers looks owner (next value)) :
    Answers looks owner (.proceed owner read next) := by
  cases read with
  | ok value => exact answers value rfl
  | error error => exact .refused looks _ error

end Owners

/-- A root that was updated is still there. -/
theorem Share.updateRoot_there {share : Share} {token : Nat} {update : RootUpdate}
    {updated : Published Share PropertySet}
    (success : share.updateRoot token update = .ok updated) :
    ∃ root, updated.owner.get? token = some root := by
  obtain ⟨root, found, rest⟩ := of_bind_ok success
  obtain ⟨_, _, rest⟩ := of_bind_ok rest
  obtain ⟨_, _, done⟩ := of_bind_ok rest
  rw [← of_pure_ok done]
  exact ⟨_, by rw [Catalog.get?_modify, if_pos rfl, find_ok found, Option.map_some]⟩

def QueueAction.looks : QueueAction → Bool
  | .page | .get => true
  | .removeFinished | .setPriorityAll | .remove | .setPriority | .addFile | .addDirectory => false

def ShareAction.looks : ShareAction → Bool
  | .list => true
  | .add | .update | .remove | .refresh => false

def HubAction.looks : HubAction → Bool
  | .page | .get => true
  | .add | .update | .remove => false

def SearchAction.looks : SearchAction → Bool
  | .page | .get => true
  | .start | .clear => false

def ModuleAction.looks {Events Own : Type} (own : Own → Bool) : ModuleAction Events Own → Bool
  | .view action => action = .page
  | .events _ => false
  | .own action => own action

theorem Queue.serve_answers (queue : Queue) (now : Nat) (action : QueueAction) (captured : Captured)
    (request : Request) :
    Answers (action.looks = true) queue (queue.serve now action captured request) := by
  cases action with
  | page | get => exact .looked _ _ _
  | removeFinished => exact .done nofun rfl
  | setPriorityAll | remove | setPriority | addFile | addDirectory =>
      exact Published.proceed_answers fun _ _ => .done nofun rfl

theorem Share.serve_answers (share : Share) (action : ShareAction) (captured : Captured)
    (request : Request) :
    Answers (action.looks = true) share (share.serve action captured request) := by
  cases action with
  | list => exact .looked _ _ (.ok (ShareRoot.handler.listJson share.items))
  | add | remove | refresh => exact Published.proceed_answers fun _ _ => .done nofun rfl
  | update =>
      refine Published.proceed_answers fun (token, updated) asked => ?_
      obtain ⟨update, _, rest⟩ := of_bind_ok asked
      split at rest
      · cases rest
      · obtain ⟨place, _, rest⟩ := of_bind_ok rest
        obtain ⟨done, success, same⟩ := of_bind_ok rest
        obtain ⟨rfl, rfl⟩ := Prod.mk.inj (of_pure_ok same)
        -- After the update the root cannot be missing, or an update would be answered with failure.
        obtain ⟨root, there⟩ := updateRoot_there (of_mapError_ok success)
        simp only [there]
        exact .done nofun rfl

theorem HubList.serve_answers (hubs : HubList) (action : HubAction) (captured : Captured)
    (request : Request) :
    Answers (action.looks = true) hubs (hubs.serve action captured request) := by
  cases action with
  | page | get => exact .looked _ _ _
  | add | update | remove => exact Published.proceed_answers fun _ _ => .done nofun rfl

theorem Search.serve_answers (search : Search) (action : SearchAction) (captured : Captured)
    (request : Request) :
    Answers (action.looks = true) search (search.serve action captured request) := by
  cases action with
  | page | get => exact .looked _ _ _
  | clear => exact .done nofun rfl
  | start => exact Published.proceed_answers fun _ _ => .done nofun rfl

/-! The views -/

namespace ListView

variable {Ref : Type} {handler : Handler Ref} {source : List Ref} {view : ListView Ref}

theorem setFilter_added (handler : Handler Ref) (view : ListView Ref) (filter : Option Filter) :
    ∃ after, view.addEmptyFilter.2.setFilter handler view.addEmptyFilter.1 filter = .ok after := by
  have there : view.addEmptyFilter.2.filters.contains view.addEmptyFilter.1 = true := by
    simp [addEmptyFilter, FilterSlots.add, FilterSlots.contains]
  unfold setFilter FilterSlots.set
  rw [if_pos there]
  exact ⟨_, rfl⟩

/-- A filter is refused only as it is read: once it has a number it can be set. -/
theorem addFilter_failed {body : Json} {error : ViewError}
    (failed : (view.addFilter handler body).2 = .error error) :
    (view.addFilter handler body).1 = view := by
  unfold addFilter at failed ⊢
  split
  · rfl
  · rename_i read
    rw [read] at failed
    cases failed
  · rename_i filter read
    obtain ⟨after, set⟩ := setFilter_added handler view (some filter)
    simp only [read, set] at failed
    cases failed

theorem answered_failed {request : Except ViewError (ViewStep Ref × ViewAnswer)} {error : ViewError}
    (succeeds : ∀ result, request = .ok result → result.2 ≠ .failed error)
    (failed : (view.answered request).2 = .failed error) :
    (view.answered request).1 = { view } := by
  cases request with
  | ok result => exact absurd failed (succeeds result rfl)
  | error other => rfl

theorem perform_failed {command : ViewCommand} {error : ViewError}
    (failed : (view.perform handler source command).2 = .failed error) :
    (view.perform handler source command).1 = { view } := by
  cases command with
  | configure | setFilter | removeFilter | reset =>
      refine answered_failed (fun result success => ?_) failed
      obtain ⟨_, _, rfl⟩ := of_map_ok success
      simp
  | addFilter body =>
      have refused : (view.addFilter handler body).2 = .error error := by
        cases outcome : (view.addFilter handler body).2 with
        | ok id =>
            simp only [perform, outcome] at failed
            cases failed
        | error other =>
            simp only [perform, outcome] at failed
            cases failed
            rfl
      exact congrArg (fun view => ({ view } : ViewStep Ref)) (addFilter_failed refused)
  | flush | newFilter | clearFilters | page | reload | stop => cases failed

end ListView

namespace ViewAnswer

variable {answer : ViewAnswer}

theorem failed_of_response {error : RequestError} (refused : answer.response = .error error) :
    ∃ reason, answer = .failed reason := by
  cases answer with
  | failed reason => exact ⟨reason, rfl⟩
  | done | flushed | filter | items => cases refused

theorem isSuccess_of_response {response : Response} (success : answer.response = .ok response) :
    response.isSuccess = true := by
  cases answer with
  | failed => cases success
  | done | flushed | filter | items =>
      rw [← Except.ok.inj success]
      rfl

end ViewAnswer

theorem ViewAction.page_command {captured : Captured} {body : Json} {command : ViewCommand}
    (read : ViewAction.page.command captured body = .ok command) :
    ∃ start stop, command = .page start stop := by
  obtain ⟨start, _, rest⟩ := of_bind_ok read
  obtain ⟨stop, _, done⟩ := of_bind_ok rest
  exact ⟨start, stop, (of_pure_ok done).symm⟩

/-! The routes -/

theorem Route.of_choose {Action : Type} {routes : List (Route Action)} {method : String}
    {path : List String} {action : Action} {captured : Captured}
    (chosen : Route.choose routes method path = .ok (action, captured)) :
    ∃ route ∈ routes, route.method = method ∧ route.action = action := by
  have choice := choose_choice routes method path
  rw [chosen] at choice
  cases choice with
  | found member same _ => exact ⟨_, member, same, rfl⟩

/-- Of the routes of a module, those with the method GET are only to look at something. -/
def Route.Proper {Events Own : Type} (own : Own → Bool)
    (routes : List (Route (ModuleAction Events Own))) : Prop :=
  ∀ route ∈ routes, route.method = "GET" → route.action.looks own = true

instance {Events Own : Type} (own : Own → Bool) (routes : List (Route (ModuleAction Events Own))) :
    Decidable (Route.Proper own routes) :=
  inferInstanceAs (Decidable (∀ route ∈ routes, _ → _))

theorem queueRoutes_proper : Route.Proper QueueAction.looks queueRoutes := by decide

theorem shareRoutes_proper : Route.Proper ShareAction.looks shareRoutes := by decide

theorem hubRoutes_proper : Route.Proper HubAction.looks hubRoutes := by decide

theorem searchRoutes_proper : Route.Proper SearchAction.looks searchRoutes := by decide

theorem Route.Proper.looks {Events Own : Type} {own : Own → Bool}
    {routes : List (Route (ModuleAction Events Own))} (proper : Route.Proper own routes)
    {method : String} {path : List String} {action : ModuleAction Events Own} {captured : Captured}
    (chosen : Route.choose routes method path = .ok (action, captured)) (get : method = "GET") :
    action.looks own = true := by
  obtain ⟨route, there, rfl, rfl⟩ := Route.of_choose chosen
  exact proper route there get

/-! The service -/

namespace Service

variable {service : Service} {id session : Nat} {looks : Prop}

theorem modifySession_same (service : Service) (session : Nat) (change : Session → Session)
    (same : ∀ state, service.sessions[session]? = some state → change state = state) :
    service.modifySession session change = service := by
  have sessions : service.sessions.modify session change = service.sessions := by
    apply List.ext_getElem?
    intro place
    rw [List.getElem?_modify]
    cases found : service.sessions[place]? with
    | none => rfl
    | some state =>
        by_cases here : session = place
        · subst here
          simp [same state found]
        · simp [here]
  unfold modifySession
  rw [sessions]

theorem setSignal_signal (service : Service) (list : ListName) :
    service.setSignal list (service.signal list) = service := by
  cases list with
  | bundles | roots | hubs => rfl
  | results session =>
      refine modifySession_same service session _ fun state there => ?_
      simp [signal, there]

/-- An operation that leaves a view as it is, and has no effects, leaves everything as it is. -/
theorem settle_still {bound : BoundView} (there : service.view? id = some bound) :
    service.settle id bound { view := bound.attached.view } = service := by
  have views : Assoc.set id bound service.views = service.views := Assoc.set_same there
  show ({ service.setSignal bound.list (service.signal bound.list) with
    views := Assoc.set id bound (service.setSignal bound.list (service.signal bound.list)).views } :
      Service) = service
  rw [setSignal_signal, views]

theorem perform_still {command : ViewCommand}
    (still : ∀ bound, service.view? id = some bound →
      (bound.attached.view.perform (service.handler bound.list) (service.listed bound.list)
        command).1 = { view := bound.attached.view }) :
    (service.perform id command).1 = service := by
  unfold perform
  cases found : service.view? id with
  | none => rfl
  | some bound =>
      dsimp only
      rw [still bound found]
      exact settle_still found

theorem perform_refused {command : ViewCommand} {error : ViewError}
    (failed : (service.perform id command).2 = .failed error) :
    (service.perform id command).1 = service := by
  refine perform_still fun bound found => ?_
  unfold perform at failed
  rw [found] at failed
  exact ListView.perform_failed failed

theorem perform_page (service : Service) (id start stop : Nat) :
    (service.perform id (.page start stop)).1 = service :=
  perform_still fun _ _ => rfl

theorem proceed_careful {Value : Type} {read : Except RequestError Value}
    {next : Value → Service × Except RequestError Response}
    (careful : ∀ value, read = .ok value → Careful looks service (next value).1 (next value).2) :
    Careful looks service (service.proceed read next).1 (service.proceed read next).2 := by
  cases read with
  | ok value => exact careful value rfl
  | error error => exact .refused looks service error

theorem serveView_careful (service : Service) (id : Nat) (action : ViewAction) (captured : Captured)
    (body : Json) :
    Careful (action = .page) service (service.serveView id action captured body).1
      (service.serveView id action captured body).2 := by
  refine proceed_careful fun command read => ?_
  constructor
  · intro reason
    rcases reason with rfl | ⟨error, refused⟩
    · obtain ⟨start, stop, rfl⟩ := ViewAction.page_command read
      exact perform_page service id start stop
    · obtain ⟨reason, failed⟩ := ViewAnswer.failed_of_response refused
      exact perform_refused failed
  · intro response success
    exact ViewAnswer.isSuccess_of_response success

/-- Nothing is published of an owner that stayed the same and has nothing to report. -/
theorem answer_careful {Owner : Type} {owner : Owner}
    {published : Published Owner (Except RequestError Response)}
    {publish : Published Owner (Except RequestError Response) → Service}
    (same : ∀ result, publish (.unchanged owner result) = service)
    (answers : Answers looks owner published) :
    Careful looks service (answer publish published).1 (answer publish published).2 where
  still reason := by
    obtain ⟨kept, silent⟩ := Prod.mk.inj (answers.still reason)
    rw [answer, ← same published.result, Published.unchanged, ← kept, ← silent]
  success := answers.success

variable {Result : Type}

theorem publishQueue_unchanged (service : Service) (result : Result) :
    service.publishQueue (.unchanged service.queue.owner result) = service := rfl

theorem publishShare_unchanged (service : Service) (result : Result) :
    service.publishShare (.unchanged service.share.owner result) = service := rfl

theorem publishHubs_unchanged (service : Service) (result : Result) :
    service.publishHubs (.unchanged service.hubs.owner result) = service := rfl

theorem publishSearch_unchanged (service : Service) (session : Nat) (result : Result) :
    service.publishSearch session (.unchanged (service.search session) result) = service := by
  refine modifySession_same service session _ fun state there => ?_
  simp [search, there, Published.unchanged]

theorem serveEvents_careful (service : Service) (session : Nat) (action : EventAction)
    (captured : Captured) (subscriptions : Subscriptions) (put : Subscriptions → Modules) :
    Careful False service (service.serveEvents session action captured subscriptions put).1
      (service.serveEvents session action captured subscriptions put).2 :=
  proceed_careful fun _ _ => .done id rfl

/-- A module whose routes are proper is as careful as its own actions are. -/
theorem serveModule_careful {Events Own : Type} {looks : Own → Bool}
    {routes : List (Route (ModuleAction Events Own))} (proper : Route.Proper looks routes)
    (view : Nat) (request : Request) (path : List String)
    {events : Events → Captured → Service × Except RequestError Response}
    {own : Own → Captured → Service × Except RequestError Response}
    (eventsCareful : ∀ action captured,
      Careful False service (events action captured).1 (events action captured).2)
    (ownCareful : ∀ action captured,
      Careful (looks action = true) service (own action captured).1 (own action captured).2) :
    Careful (request.method = "GET") service
      (service.serveModule routes view request path events own).1
      (service.serveModule routes view request path events own).2 := by
  refine proceed_careful fun (action, captured) chosen => ?_
  have get := proper.looks chosen
  cases action with
  | view action =>
      exact (service.serveView_careful view action _ _).mono fun is => of_decide_eq_true (get is)
  | events action => exact (eventsCareful action captured).mono fun is => nomatch get is
  | own action => exact (ownCareful action captured).mono get

theorem serve_careful (service : Service) (now session : Nat) (request : Request) :
    Careful (request.method = "GET") service (service.serve now session request).1
      (service.serve now session request).2 := by
  unfold serve
  split
  · exact .refused _ service _
  · split
    · exact serveModule_careful queueRoutes_proper _ request _
        (fun _ _ => service.serveEvents_careful ..)
        fun _ _ => answer_careful service.publishQueue_unchanged (Queue.serve_answers ..)
    · exact serveModule_careful shareRoutes_proper _ request _
        (fun _ _ => service.serveEvents_careful ..)
        fun _ _ => answer_careful service.publishShare_unchanged (Share.serve_answers ..)
    · exact serveModule_careful hubRoutes_proper _ request _ (fun none => none.elim)
        fun _ _ => answer_careful service.publishHubs_unchanged (HubList.serve_answers ..)
    · exact serveModule_careful searchRoutes_proper _ request _ (fun none => none.elim)
        fun _ _ => answer_careful (service.publishSearch_unchanged session)
          (Search.serve_answers ..)
    · exact .refused _ service _

/-- A request that is refused, and one with the method GET, changes nothing: no list, no token, no
view, no search and no subscription, and nothing is reported or sent. -/
theorem handle_unchanged (service : Service) (now session : Nat) (request : Request)
    (reason : (service.handle now session request).2.isSuccess = false ∨ request.method = "GET") :
    (service.handle now session request).1 = service := by
  have careful := service.serve_careful now session request
  apply careful.still
  rcases reason with refused | get
  · cases outcome : (service.serve now session request).2 with
    | ok response =>
        have good := careful.success response outcome
        simp only [handle, outcome, Response.ofOutcome, good] at refused
        cases refused
    | error error => exact .inr ⟨error, rfl⟩
  · exact .inl get

end Service

def sampleSaved : Service :=
  let body := Json.ofFields [("name", .string "Main"), ("hub_url", .string "adcs://hub.example")]
  (({} : Service).openSession.2.handle 0 0
    { method := "POST", path := ["favorite_hubs", "hub"], body }).1

def sampleRefused : Request where
  method := "PATCH"
  path := ["favorite_hubs", "hub", "1"]
  body := Json.ofFields [("name", .string "Other"), ("hub_url", .string " ")]

def sampleLook : Request where
  method := "GET"
  path := ["favorite_hubs", "hub", "1"]

theorem sampleSaved_unchanged :
    (sampleSaved.handle 0 0 sampleRefused).2.status = 400 ∧
    (sampleSaved.handle 0 0 sampleRefused).1 = sampleSaved ∧
    (sampleSaved.handle 0 0 sampleLook).2.status = 200 ∧
    (sampleSaved.handle 0 0 sampleLook).1 = sampleSaved :=
  ⟨by decide +kernel, sampleSaved.handle_unchanged 0 0 sampleRefused (.inl (by decide +kernel)),
    by decide +kernel, sampleSaved.handle_unchanged 0 0 sampleLook (.inr rfl)⟩

end LiveList
