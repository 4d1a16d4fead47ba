import LiveList.Proofs.Service.Requests
import LiveList.Proofs.Service.Skeleton

/-!
The usual course of the service: operations on the lists, requests, and commands to views. None of
it opens or closes anything, so the skeleton stays sound, and no session whose client is gone is
sent anything.
-/

namespace LiveList

def BoundView.card (bound : BoundView) : Card :=
  ⟨bound.session, bound.list, bound.closing, bound.attached.connection,
    bound.attached.view.isActive⟩

namespace Modules

def forwarder (modules : Modules) : ListName → Option ConnectionId
  | .bundles => some modules.queueForwarder
  | .roots => some modules.shareForwarder
  | .hubs | .results _ => none

def view (modules : Modules) : ListName → Nat
  | .bundles => modules.bundleView
  | .roots => modules.rootView
  | .hubs => modules.hubView
  | .results _ => modules.resultView

def posts (modules : Modules) : Posts := ⟨modules.forwarder, modules.view⟩

end Modules

def Session.desk (session : Session) : Desk := ⟨session.closing, session.modules.map (·.posts)⟩

namespace Service

def skeleton (service : Service) : Skeleton where
  signal := service.signal
  desk session := (service.sessions[session]?).map Session.desk
  card id := (service.view? id).map BoundView.card
  nextView := service.nextView

def gone (service : Service) (session : Nat) : Prop :=
  ∃ state, service.sessions[session]? = some state ∧ state.connected = false

def sentTo (service : Service) (session : Nat) : List Push :=
  service.sent.filter fun push => push.session = session

/-- A client that is gone does not come back, and nothing is sent to it. -/
structure Hushed (before after : Service) : Prop where
  gone : ∀ {session}, before.gone session → after.gone session
  sent : ∀ {session}, before.gone session → after.sentTo session = before.sentTo session

variable {service before middle after : Service} {session id : Nat} {state : Session}
  {bound : BoundView} {change : Session → Session} {list : ListName}

section Hushed

theorem Hushed.refl (service : Service) : Hushed service service := ⟨id, fun _ => rfl⟩

theorem Hushed.trans (first : Hushed before middle) (later : Hushed middle after) :
    Hushed before after where
  gone gone := later.gone (first.gone gone)
  sent gone := (later.sent (first.gone gone)).trans (first.sent gone)

/-- Nothing is sent, and no session is touched. -/
theorem Hushed.aside (sessions : after.sessions = before.sessions)
    (sent : after.sent = before.sent) : Hushed before after where
  gone gone := by rwa [Service.gone, sessions]
  sent _ := by rw [sentTo, sent, sentTo]

theorem Hushed.modify (service : Service) (session : Nat) {change : Session → Session}
    (stays : ∀ state : Session, state.connected = false → (change state).connected = false) :
    Hushed service (service.modifySession session change) where
  gone := by
    rintro number ⟨state, found, gone⟩
    by_cases here : session = number
    · exact ⟨change state, by simp [modifySession, here, found], stays state gone⟩
    · exact ⟨state, by simp [modifySession, here, found], gone⟩
  sent _ := rfl

theorem Hushed.setSignal (service : Service) (list : ListName) (signal : Signal Listener) :
    Hushed service (service.setSignal list signal) := by
  cases list with
  | bundles | roots | hubs => exact .aside rfl rfl
  | results session => exact .modify service session fun _ gone => gone

theorem Hushed.push (service : Service) (session : Nat) (event : String) (data : Json) :
    Hushed service (service.push session event data) := by
  unfold Service.push
  split
  · rename_i connected
    refine ⟨id, ?_⟩
    rintro number ⟨state, found, gone⟩
    have elsewhere : session ≠ number := by
      rintro rfl
      simp [found, gone] at connected
    simp [sentTo, elsewhere]
  · exact .refl service

end Hushed

section Skeleton

theorem push_skeleton (service : Service) (session : Nat) (event : String) (data : Json) :
    (service.push session event data).skeleton = service.skeleton := by
  unfold push
  split <;> rfl

theorem modifySession_skeleton (found : service.sessions[session]? = some state)
    (change : Session → Session) (same : (change state).search.signal = state.search.signal) :
    (service.modifySession session change).skeleton =
      service.skeleton.setDesk session (change state).desk := by
  have sessions (number : Nat) : (service.sessions.modify session change)[number]? =
      if number = session then some (change state) else service.sessions[number]? := by
    rw [List.getElem?_modify]
    by_cases here : number = session
    · simp [here, found]
    · simp [here, Ne.symm here]
  refine Skeleton.ext (funext fun list => ?_) (funext fun number => ?_) rfl rfl
  · cases list with
    | bundles | roots | hubs => rfl
    | results number =>
        simp only [skeleton, signal, modifySession, sessions, Skeleton.setDesk]
        split
        · rename_i here
          simp [here, found, same]
        · rfl
  · simp only [skeleton, modifySession, sessions, Skeleton.setDesk]
    split <;> rfl

theorem setDesk_same (found : service.sessions[session]? = some state) :
    service.skeleton.setDesk session state.desk = service.skeleton := by
  refine Skeleton.ext rfl (funext fun number => ?_) rfl rfl
  simp only [Skeleton.setDesk, skeleton]
  split
  · rename_i here
    simp [here, found]
  · rfl

/-- A change of a session that has no part in who listens. -/
theorem modifySession_aside (service : Service) (session : Nat)
    (signal : ∀ state : Session, (change state).search.signal = state.search.signal)
    (desk : ∀ state, service.sessions[session]? = some state → (change state).desk = state.desk) :
    (service.modifySession session change).skeleton = service.skeleton := by
  cases found : service.sessions[session]? with
  | none =>
      have same : service.modifySession session change = service :=
        modifySession_same service session change fun state there => by
          rw [found] at there
          cases there
      rw [same]
  | some state =>
      rw [modifySession_skeleton found change (signal state), desk state found, setDesk_same found]

theorem setSignal_skeleton {signal : Signal Listener}
    (housed : ∀ session, list = .results session →
      ∃ desk, service.skeleton.desk session = some desk) :
    (service.setSignal list signal).skeleton = service.skeleton.setSignal list signal := by
  cases list with
  | bundles | roots | hubs =>
      refine Skeleton.ext (funext fun other => ?_) rfl rfl rfl
      cases other <;> rfl
  | results session =>
      obtain ⟨desk, there⟩ := housed session rfl
      obtain ⟨state, found, rfl⟩ := Option.map_eq_some_iff.mp there
      refine Skeleton.ext (funext fun other => ?_) (funext fun number => ?_) rfl rfl
      · cases other with
        | bundles | roots | hubs => rfl
        | results number =>
            by_cases here : number = session
            · simp [skeleton, Service.setSignal, Service.signal, modifySession, Skeleton.setSignal,
                here, found]
            · simp [skeleton, Service.setSignal, Service.signal, modifySession, Skeleton.setSignal,
                here, Ne.symm here]
      · by_cases here : number = session
        · simp [skeleton, Service.setSignal, modifySession, Skeleton.setSignal, here, found,
            Session.desk]
        · simp [skeleton, Service.setSignal, modifySession, Skeleton.setSignal, Ne.symm here]

theorem skeleton_posts (service : Service) (session : Nat) :
    service.skeleton.posts session = (service.modules? session).map (·.posts) := by
  simp only [Skeleton.posts, skeleton, modules?]
  cases service.sessions[session]? <;> rfl

theorem posts_of_modules? {modules : Modules} (hired : service.modules? session = some modules) :
    service.skeleton.posts session = some modules.posts := by
  rw [skeleton_posts, hired, Option.map_some]

theorem modifySession_modules (service : Service) (session number : Nat)
    (same : ∀ state, (change state).modules = state.modules) :
    (service.modifySession session change).modules? number = service.modules? number := by
  simp only [modules?, modifySession, List.getElem?_modify]
  by_cases here : session = number
  · cases service.sessions[number]? with
    | none => rfl
    | some state => simp [here, same]
  · simp [here]

theorem setSignal_modules (service : Service) (list : ListName) (signal : Signal Listener)
    (session : Nat) :
    (service.setSignal list signal).modules? session = service.modules? session := by
  cases list with
  | bundles | roots | hubs => rfl
  | results number => exact modifySession_modules service number session fun _ => rfl

theorem setView_skeleton (service : Service) (id : Nat) (bound : BoundView) :
    ({ service with views := Assoc.set id bound service.views } : Service).skeleton =
      service.skeleton.setCard id (some bound.card) := by
  refine Skeleton.ext rfl rfl (funext fun other => ?_) rfl
  simp only [skeleton, view?, Skeleton.setCard, Assoc.get?_set]
  split <;> rfl

theorem setCard_same (found : service.view? id = some bound) :
    service.skeleton.setCard id (some bound.card) = service.skeleton := by
  refine Skeleton.ext rfl rfl (funext fun other => ?_) rfl
  simp only [Skeleton.setCard, skeleton]
  split
  · rename_i here
    simp [here, found]
  · rfl

theorem modifyView_skeleton {change : BoundView → BoundView}
    (same : ∀ bound, (change bound).card = bound.card) (service : Service) (id : Nat) :
    (service.modifyView id change).skeleton = service.skeleton := by
  unfold modifyView
  split
  · rename_i bound found
    rw [setView_skeleton, same, setCard_same found]
  · rfl

end Skeleton

structure Course (before after : Service) : Prop where
  sound : ∀ {foreign forwarders}, before.skeleton.Sound foreign forwarders →
    after.skeleton.Sound foreign forwarders
  posts : ∀ session, after.skeleton.posts session = before.skeleton.posts session
  hushed : Hushed before after

namespace Course

theorem refl (service : Service) : Course service service := ⟨id, fun _ => rfl, .refl service⟩

theorem trans (first : Course before middle) (later : Course middle after) : Course before after :=
  ⟨fun sound => later.sound (first.sound sound),
    fun session => (later.posts session).trans (first.posts session),
    first.hushed.trans later.hushed⟩

theorem still (same : after.skeleton = before.skeleton) (hushed : Hushed before after) :
    Course before after :=
  ⟨fun sound => same ▸ sound, fun _ => same ▸ rfl, hushed⟩

theorem foldl {Value : Type} {step : Service → Value → Service}
    (course : ∀ service value, Course service (step service value)) (values : List Value)
    (service : Service) : Course service (values.foldl step service) := by
  induction values generalizing service with
  | nil => exact refl service
  | cons value rest ih => exact (course service value).trans (ih (step service value))

theorem push (service : Service) (session : Nat) (event : String) (data : Json) :
    Course service (service.push session event data) :=
  still (push_skeleton ..) (.push ..)

theorem send (bound : BoundView) (service : Service) (effect : ViewEffect) :
    Course service (Service.send bound service effect) := by
  cases effect with
  | told delta => exact push ..
  | join | leave | activated => exact refl service

/-- A view that was moved is at its new seat, or has left it. -/
theorem settle {handler : Handler Nat} {source : List Nat} {permit : ListView.Permit Nat}
    {step : ViewStep Nat} (found : service.view? id = some bound)
    (motions : ListView.Motions handler source permit bound.attached.view step.view step.effects) :
    Course service (service.settle id bound step) := by
  refine trans ?_ (foldl (send bound) step.effects _)
  have posts (session : Nat) := setSignal_modules service bound.list
    (bound.attached.settle (.view id) (service.signal bound.list) step).2 session
  refine ⟨fun {foreign forwarders} sound => ?_, fun session => ?_,
    (Hushed.setSignal service bound.list _).trans (.aside rfl rfl)⟩
  rotate_left
  · rw [skeleton_posts, skeleton_posts]
    exact congrArg _ (posts session)
  have card : service.skeleton.card id = some bound.card := by simp [skeleton, found]
  have here : service.skeleton.seat forwarders bound.list (.view id) =
      bound.attached.connection := by
    simp [Skeleton.seat, card, BoundView.card]
  have housed (session : Nat) (there : bound.list = .results session) :
      ∃ desk, service.skeleton.desk session = some desk := sound.orderly.housed card there
  rw [setView_skeleton, setSignal_skeleton housed]
  have moved : Skeleton.Moved bound.card ({ bound with
      attached := (bound.attached.settle (.view id) (service.signal bound.list) step).1 } :
        BoundView).card :=
    ⟨rfl, rfl, rfl, AttachedView.settle_fits motions (sound.orderly.fits card)⟩
  exact sound.move card moved (AttachedView.settle_seats (sound.seats bound.list) here step)

theorem perform (service : Service) (id : Nat) (command : ViewCommand) :
    Course service (service.perform id command).1 := by
  unfold Service.perform
  split
  · rename_i bound found
    exact settle found (ListView.perform_motions command)
  · exact refl service

theorem forward (service : Service) (list : ListName) (event : ItemEvent) (session : Nat) :
    Course service (service.forward list event session) := by
  unfold Service.forward
  split
  · split
    · exact push ..
    · exact refl service
  · exact refl service

theorem modifyView {change : BoundView → BoundView}
    (same : ∀ bound, (change bound).card = bound.card) (service : Service) (id : Nat) :
    Course service (service.modifyView id change) := by
  refine still (modifyView_skeleton same service id) ?_
  unfold Service.modifyView
  split <;> exact .aside rfl rfl

theorem hearEvent_active (handler : Handler Nat) (event : ItemEvent) (view : ListView Nat) :
    (view.hearEvent handler event).isActive = view.isActive := by
  have same : (view.hearEvent handler event).phase = view.phase := by
    cases event <;> exact ListView.hear_phase ..
  rw [ListView.isActive, same, ListView.isActive]

theorem deliver (service : Service) (list : ListName) (event : ItemEvent) (listener : Listener) :
    Course service (service.deliver list event listener) := by
  cases listener with
  | forwarder session => exact forward ..
  | view id =>
      refine modifyView (fun bound => ?_) service id
      simp [BoundView.card, hearEvent_active]

theorem announce (list : ListName) (service : Service) (event : ItemEvent) :
    Course service (service.announce list event) := by
  have reported : Course service
      { service with reported := service.reported ++ [(list, event)] } :=
    still rfl (.aside rfl rfl)
  exact reported.trans (foldl (fun service listener => deliver service list event listener) _ _)

theorem announceAll (list : ListName) (events : List ItemEvent) (service : Service) :
    Course service (service.announceAll list events) :=
  foldl (announce list) events service

section Publish

variable {Result : Type}

theorem publishQueue (service : Service) (published : Published Queue Result) :
    Course service (service.publishQueue published) := by
  have taken : Course service
      { service with queue := { service.queue with owner := published.owner } } :=
    still (Skeleton.ext (funext fun list => by cases list <;> rfl) rfl rfl rfl) (.aside rfl rfl)
  exact taken.trans (announceAll ..)

theorem publishShare (service : Service) (published : Published Share Result) :
    Course service (service.publishShare published) := by
  have taken : Course service
      { service with share := { service.share with owner := published.owner } } :=
    still (Skeleton.ext (funext fun list => by cases list <;> rfl) rfl rfl rfl) (.aside rfl rfl)
  exact taken.trans (announceAll ..)

theorem publishHubs (service : Service) (published : Published HubList Result) :
    Course service (service.publishHubs published) := by
  have taken : Course service
      { service with hubs := { service.hubs with owner := published.owner } } :=
    still (Skeleton.ext (funext fun list => by cases list <;> rfl) rfl rfl rfl) (.aside rfl rfl)
  exact taken.trans (announceAll ..)

theorem publishSearch (service : Service) (session : Nat) (published : Published Search Result) :
    Course service (service.publishSearch session published) := by
  have taken : Course service (service.modifySession session fun session =>
      { session with search := { session.search with owner := published.owner } }) :=
    still (modifySession_aside service session (fun _ => rfl) fun _ _ => rfl)
      (.modify service session fun _ gone => gone)
  exact taken.trans (announceAll ..)

end Publish

section Requests

variable {modules : Modules}

theorem proceed {Value : Type} {read : Except RequestError Value}
    {next : Value → Service × Except RequestError Response}
    (course : ∀ value, Course service (next value).1) :
    Course service (service.proceed read next).1 := by
  cases read with
  | ok value => exact course value
  | error error => exact refl service

theorem serveView (service : Service) (id : Nat) (action : ViewAction) (captured : Captured)
    (body : Json) : Course service (service.serveView id action captured body).1 :=
  proceed fun command => perform service id command

/-- Only the subscriptions of the modules change. -/
theorem setModules (there : service.modules? session = some modules) {other : Modules}
    (same : other.posts = modules.posts) : Course service (service.setModules session other) := by
  refine still (modifySession_aside service session (fun _ => rfl) fun state found => ?_)
    (.modify service session fun _ gone => gone)
  have kept : state.modules = some modules := by simpa [modules?, found] using there
  simp [Session.desk, kept, same]

theorem serveEvents (there : service.modules? session = some modules) {action : EventAction}
    {captured : Captured} {subscriptions : Subscriptions} {put : Subscriptions → Modules}
    (same : ∀ subscriptions, (put subscriptions).posts = modules.posts) :
    Course service (service.serveEvents session action captured subscriptions put).1 :=
  proceed fun subscriptions => setModules there (same subscriptions)

theorem serveModule {Events Own : Type} {routes : List (Route (ModuleAction Events Own))}
    {view : Nat} {request : Request} {path : List String}
    {events : Events → Captured → Service × Except RequestError Response}
    {own : Own → Captured → Service × Except RequestError Response}
    (eventsCourse : ∀ action captured, Course service (events action captured).1)
    (ownCourse : ∀ action captured, Course service (own action captured).1) :
    Course service (service.serveModule routes view request path events own).1 := by
  refine proceed fun (action, captured) => ?_
  cases action with
  | view action => exact serveView ..
  | events action => exact eventsCourse action captured
  | own action => exact ownCourse action captured

theorem handle (service : Service) (now session : Nat) (request : Request) :
    Course service (service.handle now session request).1 := by
  show Course service (service.serve now session request).1
  unfold serve
  split
  · exact refl service
  · split
    · rename_i there
      exact serveModule (fun _ _ => serveEvents there fun _ => rfl) fun _ _ => publishQueue ..
    · rename_i there
      exact serveModule (fun _ _ => serveEvents there fun _ => rfl) fun _ _ => publishShare ..
    · exact serveModule (fun none => none.elim) fun _ _ => publishHubs ..
    · exact serveModule (fun none => none.elim) fun _ _ => publishSearch ..
    · exact refl service

theorem handleView (service : Service) (id : Nat) (request : Request) :
    Course service (service.handleView id request).1 :=
  proceed fun (action, captured) => serveView service id action captured request.body

end Requests

end Course

end Service

end LiveList
