import LiveList.Proofs.Hub.Steps
import LiveList.Proofs.Queue.Steps
import LiveList.Proofs.Search.Steps
import LiveList.Proofs.Service.Turnover
import Mathlib.Data.List.Nodup

/-!
Who listens to the lists, whatever happened before. The modules of every session have one listener
for each list with events, and one for each of their views that is active; nobody else's are touched,
and none is left behind. A client that went away is sent nothing any more.
-/

namespace LiveList

structure Hosted where
  service : Service := {}
  foreign : List Nat := []

inductive Happening where
  | openSession
  | request (now session : Nat) (request : Request)
  | changeQueue (operation : QueueOperation)
  | changeShare (operation : ShareOperation)
  | changeHubs (operation : HubOperation)
  | changeSearch (session : Nat) (operation : SearchOperation)
  /-- A command to any view, such as a flush. -/
  | command (id : Nat) (command : ViewCommand)
  | viewRequest (id : Nat) (request : Request)
  | disconnect (session : Nat)
  | dropModules (session : Nat)
  | openView (session : Nat) (name : String) (list : ListName)
  | closeView (id : Nat)

namespace Service

def hasList (service : Service) : ListName → Bool
  | .bundles | .roots | .hubs => true
  | .results session => session < service.sessions.length

def servers (service : Service) : List Modules :=
  (List.range service.sessions.length).filterMap service.modules?

def isActive (service : Service) (id : Nat) : Bool :=
  (service.view? id).any (·.attached.view.isActive)

theorem modules?_lt {service : Service} {session : Nat} {modules : Modules}
    (hired : service.modules? session = some modules) :
    session < service.sessions.length := by
  obtain ⟨state, there, _⟩ := Option.bind_eq_some_iff.mp hired
  exact (List.getElem?_eq_some_iff.mp there).1

theorem mem_servers {service : Service} {modules : Modules} :
    modules ∈ service.servers ↔
      ∃ session, service.modules? session = some modules := by
  simp only [servers, List.mem_filterMap, List.mem_range]
  constructor
  · rintro ⟨session, _, hired⟩
    exact ⟨session, hired⟩
  · rintro ⟨session, hired⟩
    exact ⟨session, modules?_lt hired, hired⟩

end Service

namespace Hosted

/-- A view that is opened by others is theirs, and only they close it. -/
def step (hosted : Hosted) : Happening → Hosted
  | .openSession => { hosted with service := hosted.service.openSession.2 }
  | .request now session request =>
      { hosted with service := (hosted.service.handle now session request).1 }
  | .changeQueue operation =>
      { hosted with
        service := hosted.service.publishQueue (hosted.service.queue.owner.operate operation) }
  | .changeShare operation =>
      { hosted with
        service := hosted.service.publishShare (hosted.service.share.owner.operate operation) }
  | .changeHubs operation =>
      { hosted with
        service := hosted.service.publishHubs (hosted.service.hubs.owner.operate operation) }
  | .changeSearch session operation =>
      { hosted with
        service := hosted.service.publishSearch session
          ((hosted.service.search session).operate operation) }
  | .command id command => { hosted with service := (hosted.service.perform id command).1 }
  | .viewRequest id request => { hosted with service := (hosted.service.handleView id request).1 }
  | .disconnect session => { hosted with service := hosted.service.disconnect session }
  | .dropModules session => { hosted with service := hosted.service.dropModules session }
  | .openView session name list =>
      if session < hosted.service.sessions.length ∧ hosted.service.hasList list = true then
        let (id, service) := hosted.service.openView session name list
        { service, foreign := id :: hosted.foreign }
      else hosted
  | .closeView id =>
      if id ∈ hosted.foreign then
        { service := hosted.service.closeView id, foreign := hosted.foreign.filter (· ≠ id) }
      else hosted

def run (hosted : Hosted) (happenings : List Happening) : Hosted := happenings.foldl step hosted

def isForeign (hosted : Hosted) : Listener → Bool
  | .forwarder _ => false
  | .view id => hosted.foreign.contains id

def slots (hosted : Hosted) (list : ListName) : Nat :=
  (hosted.service.signal list).listeners.countP fun listener => !hosted.isForeign listener

def Tidy (hosted : Hosted) : Prop := hosted.service.Tidy (· ∈ hosted.foreign)

/-- Which sessions have modules after something has happened: a new session has them, and they last
until they are dropped. -/
def serves (hosted : Hosted) (session : Nat) : Happening → Bool
  | .openSession => session == hosted.service.sessions.length || hosted.service.served session
  | .dropModules dropped => session != dropped && hosted.service.served session
  | _ => hosted.service.served session

variable {hosted : Hosted} {list : ListName}

section Steps

open Service

theorem Tidy.step (tidy : hosted.Tidy) (happening : Happening) :
    Changed (· ∈ (hosted.step happening).foreign) (hosted.serves · happening) hosted.service
      (hosted.step happening).service := by
  cases happening with
  | openSession => exact openSession_changed tidy
  | request now session request => exact Service.Tidy.course tidy (.handle ..)
  | changeQueue operation => exact Service.Tidy.course tidy (.publishQueue ..)
  | changeShare operation => exact Service.Tidy.course tidy (.publishShare ..)
  | changeHubs operation => exact Service.Tidy.course tidy (.publishHubs ..)
  | changeSearch session operation => exact Service.Tidy.course tidy (.publishSearch ..)
  | command id command => exact Service.Tidy.course tidy (.perform ..)
  | viewRequest id request => exact Service.Tidy.course tidy (.handleView ..)
  | disconnect session => exact Service.Tidy.course tidy (disconnect_course ..)
  | dropModules session => exact dropModules_changed tidy session
  | openView session name list =>
      simp only [Hosted.step]
      split
      · rename_i possible
        have desk {number : Nat} (there : number < hosted.service.sessions.length) :
            ∃ desk, hosted.service.skeleton.desk number = some desk := by
          simp [Service.skeleton, there]
        obtain ⟨_, found⟩ := desk possible.1
        have housed (number : Nat) (results : list = .results number) :
            ∃ desk, hosted.service.skeleton.desk number = some desk := by
          subst results
          exact desk (of_decide_eq_true possible.2)
        have opened := openView_changed tidy name list found housed
        refine ⟨opened.tidy.congr fun id => ?_, opened.served, opened.hushed⟩
        simp [openView, or_comm]
      · exact ⟨tidy, fun _ => rfl, .refl _⟩
  | closeView id =>
      simp only [Hosted.step]
      split
      · rename_i out
        have closed := closeView_changed tidy out
        refine ⟨closed.tidy.congr fun number => ?_, closed.served, closed.hushed⟩
        simp
      · exact ⟨tidy, fun _ => rfl, .refl _⟩

theorem Tidy.run (tidy : hosted.Tidy) (happenings : List Happening) :
    (hosted.run happenings).Tidy ∧ Hushed hosted.service (hosted.run happenings).service := by
  induction happenings generalizing hosted with
  | nil => exact ⟨tidy, .refl _⟩
  | cons happening rest ih =>
      have next := tidy.step happening
      obtain ⟨last, later⟩ := ih next.tidy
      exact ⟨last, next.hushed.trans later⟩

theorem Tidy.start : ({} : Hosted).Tidy := by
  refine (Skeleton.Sound.start.congr fun id => ?_).reconnect fun list session => ?_
  · simp
  · rfl

end Steps

section Count

open Service

theorem mem_forwarders (tidy : hosted.Tidy) (session : Nat) :
    .forwarder session ∈ (hosted.service.signal list).listeners ↔
      session < hosted.service.sessions.length ∧
        (hosted.service.skeleton.forwarders list session).isSome = true := by
  refine (tidy.seats list).mem_listeners.trans ⟨fun held => ⟨?_, held⟩, fun held => held.2⟩
  obtain ⟨connection, held⟩ := Option.isSome_iff_exists.mp held
  obtain ⟨posts, kept, _⟩ := Option.bind_eq_some_iff.mp held
  rw [skeleton_posts, Option.map_eq_some_iff] at kept
  obtain ⟨modules, hired, _⟩ := kept
  exact modules?_lt hired

/-- The views that modules have at a list are those that are active. -/
theorem mem_views (tidy : hosted.Tidy) (shared : ∀ session, list ∈ ListName.all session) (id : Nat) :
    .view id ∈ (hosted.service.signal list).listeners ∧ id ∉ hosted.foreign ↔
      id ∈ hosted.service.servers.map (·.view list) ∧ hosted.service.isActive id = true := by
  have seated : .view id ∈ (hosted.service.signal list).listeners ↔
      ∃ card, hosted.service.skeleton.card id = some card ∧ card.list = list ∧
        card.connection.isSome := by
    refine (tidy.seats list).mem_listeners.trans ?_
    simp only [Skeleton.seat, Option.isSome_bind]
    cases hosted.service.skeleton.card id with
    | none => simp
    | some card => by_cases here : card.list = list <;> simp [here]
  have active {bound : BoundView} (found : hosted.service.view? id = some bound) :
      hosted.service.isActive id = bound.card.active := by
    rw [isActive, found]
    rfl
  rw [seated]
  constructor
  · rintro ⟨⟨card, present, rfl, connected⟩, own⟩
    obtain ⟨_, posts, hired, here⟩ := tidy.staffed.owned present own
    rw [skeleton_posts, Option.map_eq_some_iff] at hired
    obtain ⟨modules, hired, rfl⟩ := hired
    refine ⟨List.mem_map.mpr ⟨modules, mem_servers.mpr ⟨_, hired⟩, here⟩, ?_⟩
    rw [tidy.orderly.fits present] at connected
    obtain ⟨bound, found, rfl⟩ := Option.map_eq_some_iff.mp present
    rw [active found, connected]
  · rintro ⟨member, running⟩
    obtain ⟨modules, serves, rfl⟩ := List.mem_map.mp member
    obtain ⟨session, hired⟩ := mem_servers.mp serves
    obtain ⟨own, card, present, _, here⟩ := Service.Tidy.serves tidy hired list (shared session)
    refine ⟨⟨card, present, here, ?_⟩, own⟩
    obtain ⟨bound, found, rfl⟩ := Option.map_eq_some_iff.mp present
    rw [tidy.orderly.fits present, ← active found, running]

theorem nodup_views (tidy : hosted.Tidy) (shared : ∀ session, list ∈ ListName.all session) :
    (hosted.service.servers.map (·.view list)).Nodup := by
  have apart : (List.range hosted.service.sessions.length).filterMap (fun session =>
      (hosted.service.modules? session).map (·.view list)) |>.Nodup := by
    refine List.Nodup.filterMap (fun first second id one other => ?_) List.nodup_range
    have belongs {session : Nat}
        (here : id ∈ (hosted.service.modules? session).map (·.view list)) :
        hosted.service.skeleton.Opened session list id := by
      obtain ⟨modules, hired, rfl⟩ := Option.map_eq_some_iff.mp here
      exact (Service.Tidy.serves tidy hired list (shared session)).2
    obtain ⟨_, present, rfl, _⟩ := belongs one
    obtain ⟨_, again, rfl, _⟩ := belongs other
    rw [Option.some.inj (present.symm.trans again)]
  rwa [servers, List.map_filterMap]

/-- The listeners that modules have at a list, one by one. -/
theorem listeners_perm (tidy : hosted.Tidy) (shared : ∀ session, list ∈ ListName.all session) :
    ((hosted.service.signal list).listeners.filter fun listener =>
      !hosted.isForeign listener).Perm
    (((List.range hosted.service.sessions.length).filter fun session =>
        (hosted.service.skeleton.forwarders list session).isSome).map .forwarder ++
      ((hosted.service.servers.map (·.view list)).filter hosted.service.isActive).map .view) := by
  have forwarders : Function.Injective Listener.forwarder := fun _ _ => Listener.forwarder.inj
  have views : Function.Injective Listener.view := fun _ _ => Listener.view.inj
  have nodup : (hosted.service.signal list).listeners.Nodup := (tidy.seats list).nodup
  refine (List.perm_ext_iff_of_nodup (nodup.filter _) ?_).mpr fun listener => ?_
  · refine List.nodup_append.mpr ⟨(List.nodup_range.filter _).map forwarders,
      ((nodup_views tidy shared).filter _).map views, ?_⟩
    intro first one second other
    obtain ⟨_, _, rfl⟩ := List.mem_map.mp one
    obtain ⟨_, _, rfl⟩ := List.mem_map.mp other
    exact nofun
  · cases listener with
    | forwarder session => simp [isForeign, mem_forwarders tidy]
    | view id =>
        have same := mem_views tidy shared id
        simpa [isForeign] using same

theorem slots_eq (tidy : hosted.Tidy) (shared : ∀ session, list ∈ ListName.all session) :
    hosted.slots list =
      ((List.range hosted.service.sessions.length).countP fun session =>
        (hosted.service.skeleton.forwarders list session).isSome) +
      hosted.service.servers.countP fun modules => hosted.service.isActive (modules.view list) := by
  rw [slots, List.countP_eq_length_filter, (listeners_perm tidy shared).length_eq, List.length_append,
    List.length_map, List.length_map, ← List.countP_eq_length_filter, ← List.countP_eq_length_filter,
    List.countP_map]
  rfl

theorem countP_forwarders (forwards : ∀ modules : Modules, (modules.forwarder list).isSome = true) :
    ((List.range hosted.service.sessions.length).countP fun session =>
      (hosted.service.skeleton.forwarders list session).isSome) = hosted.service.servers.length := by
  rw [servers, List.length_filterMap_eq_countP]
  refine List.countP_congr fun session _ => ?_
  rw [Skeleton.forwarders, skeleton_posts]
  cases hosted.service.modules? session with
  | none => simp
  | some modules => simpa [Modules.posts] using forwards modules

theorem no_forwarders (session : Nat) :
    hosted.service.skeleton.forwarders .hubs session = none := by
  rw [Skeleton.forwarders, skeleton_posts]
  cases hosted.service.modules? session <;> rfl

end Count

/-- What the listeners of the lists add up to, and what the end of a session leaves. -/
structure Accounted (hosted : Hosted) : Prop where
  served : ∀ happening session,
    (hosted.step happening).service.served session = hosted.serves session happening
  bundles : hosted.slots .bundles = hosted.service.servers.length +
    hosted.service.servers.countP fun modules => hosted.service.isActive modules.bundleView
  roots : hosted.slots .roots = hosted.service.servers.length +
    hosted.service.servers.countP fun modules => hosted.service.isActive modules.rootView
  hubs : hosted.slots .hubs =
    hosted.service.servers.countP fun modules => hosted.service.isActive modules.hubView
  /-- The first time that a session is disconnected, all views of its modules become inactive. -/
  ended : ∀ session state, hosted.service.sessions[session]? = some state →
    state.connected = true → ∀ modules, state.modules = some modules →
    ∀ list ∈ ListName.all session, ∃ bound,
      (hosted.step (.disconnect session)).service.view? (modules.view list) = some bound ∧
      bound.attached.view.phase = .inactive
  /-- From then on nothing is sent to the session, whatever else happens. -/
  silent : ∀ session state, hosted.service.sessions[session]? = some state →
    ∀ later, (hosted.run (.disconnect session :: later)).service.sentTo session =
      hosted.service.sentTo session

theorem Tidy.accounted (tidy : hosted.Tidy) : hosted.Accounted where
  served happening := (tidy.step happening).served
  bundles := by rw [slots_eq tidy (by simp [ListName.all]), countP_forwarders fun _ => rfl]; rfl
  roots := by rw [slots_eq tidy (by simp [ListName.all]), countP_forwarders fun _ => rfl]; rfl
  hubs := by
    rw [slots_eq tidy (by simp [ListName.all]), List.countP_eq_zero.mpr, Nat.zero_add]
    · rfl
    · simp [no_forwarders]
  ended _ _ there connected _ hired := Service.disconnect_rests tidy there connected hired
  silent session state there later := by
    obtain ⟨gone, same⟩ := Service.disconnect_gone there
    have next := (tidy.step (.disconnect session)).tidy
    exact ((Tidy.run next later).2.sent gone).trans same

end Hosted

/-- After whatever has happened to the service, every listener of the lists that modules connected
is accounted for, and a client that went away has seen the last of its views and events. -/
theorem subscriptions_accounted (happenings : List Happening) :
    (({} : Hosted).run happenings).Accounted :=
  (Hosted.Tidy.start.run happenings).1.accounted

def sampleHappenings : List Happening :=
  let activate : Happening := .command 1 (.configure (Json.ofFields []))
  [.openSession, .openSession, activate, .disconnect 0, activate, .disconnect 0, .dropModules 0]

example : (List.range 8).map (fun count =>
    (({} : Hosted).run (sampleHappenings.take count)).slots .bundles) = [0, 1, 2, 3, 2, 3, 3, 1] := by
  decide +kernel

end LiveList
