import LiveList.Proofs.Service.Course

/-!
How sessions and views come and go. Modules are set up and dropped piece by piece; in between, their
views count as foreign and their forwarders are known apart from them.
-/

namespace LiveList

namespace Skeleton

theorem Sound.start : ({} : Service).skeleton.Sound (fun _ => False) fun _ _ => none where
  seats list := by
    have empty : ({} : Service).skeleton.signal list = {} := by cases list <;> rfl
    rw [empty]
    refine Signal.Seats.start.congr fun listener => ?_
    cases listener <;> rfl
  orderly := ⟨nofun, nofun, nofun, nofun, nofun⟩
  staffed := ⟨nofun, nofun, nofun⟩

end Skeleton

namespace Modules

theorem listed (modules : Modules) (session : Nat) (entry : ListName × Nat) :
    entry ∈ [(.hubs, modules.hubView), (.roots, modules.rootView), (.bundles, modules.bundleView),
        (.results session, modules.resultView)] ↔
      ∃ list ∈ ListName.all session, entry = (list, modules.view list) := by
  simp only [ListName.all, List.mem_cons, List.not_mem_nil, or_false, exists_eq_or_imp,
    exists_eq_left, Modules.view]
  grind

theorem connected (modules : Modules) (before : ListName → Nat → Option ConnectionId)
    (new : ∀ list, before list session = none) (list : ListName) (number : Nat) :
    (if list = .roots ∧ number = session then some modules.shareForwarder
      else if list = .bundles ∧ number = session then some modules.queueForwarder
      else before list number) =
    if number = session then modules.forwarder list else before list number := by
  by_cases here : number = session
  · cases list <;> simp [here, Modules.forwarder, new]
  · simp [here]

end Modules

namespace Service

variable {service start : Service} {session id : Nat} {state : Session} {bound : BoundView}
  {list : ListName} {foreign : Nat → Prop} {forwarders : ListName → Nat → Option ConnectionId}
  {desk : Desk} {opened : List (ListName × Nat)}

def Tidy (foreign : Nat → Prop) (service : Service) : Prop :=
  service.skeleton.Sound foreign service.skeleton.forwarders

theorem Tidy.of_sound (service : Service) {after : Service}
    (sound : after.skeleton.Sound foreign service.skeleton.forwarders)
    (posts : ∀ number, after.skeleton.posts number = service.skeleton.posts number) :
    after.Tidy foreign :=
  sound.reconnect fun list number => by rw [Skeleton.forwarders, posts, Skeleton.forwarders]

def served (service : Service) (session : Nat) : Bool := (service.modules? session).isSome

theorem served_eq (service : Service) (session : Nat) :
    service.served session = (service.skeleton.posts session).isSome := by
  rw [served, skeleton_posts, Option.isSome_map]

structure Changed (foreign : Nat → Prop) (served : Nat → Bool) (before after : Service) : Prop where
  tidy : after.Tidy foreign
  served : ∀ session, after.served session = served session
  hushed : Hushed before after

theorem Tidy.course {after : Service} (tidy : service.Tidy foreign) (course : Course service after) :
    Changed foreign service.served service after where
  tidy := .of_sound service (course.sound tidy) course.posts
  served session := by rw [served_eq, course.posts, served_eq]
  hushed := course.hushed

theorem Tidy.serves (tidy : service.Tidy foreign) {modules : Modules}
    (hired : service.modules? session = some modules) :
    ∀ list ∈ ListName.all session,
      ¬ foreign (modules.view list) ∧ service.skeleton.Opened session list (modules.view list) :=
  tidy.staffed.served (posts_of_modules? hired)

section Views

theorem setSignal_views (service : Service) (list : ListName) (signal : Signal Listener) :
    (service.setSignal list signal).views = service.views := by
  cases list <;> rfl

theorem send_views (bound : BoundView) (effects : List ViewEffect) (service : Service) :
    (effects.foldl (send bound) service).views = service.views := by
  induction effects generalizing service with
  | nil => rfl
  | cons effect rest ih =>
      rw [List.foldl_cons, ih]
      cases effect with
      | told delta =>
          show (service.push _ _ _).views = service.views
          unfold push
          split <;> rfl
      | join | leave | activated => rfl

theorem view?_settle (service : Service) (id : Nat) (bound : BoundView) (step : ViewStep Nat)
    (other : Nat) : (service.settle id bound step).view? other =
      if other = id then
        some { bound with
          attached := (bound.attached.settle (.view id) (service.signal bound.list) step).1 }
      else service.view? other := by
  have views := send_views bound step.effects
  simp only [view?, settle, views, Assoc.get?_set, setSignal_views]

theorem view?_stopView (found : service.view? id = some bound) (other : Nat) :
    (stopView id service).view? other =
      if other = id then
        some { bound with
          attached := (bound.attached.settle (.view id) (service.signal bound.list)
            bound.attached.view.stop).1 }
      else service.view? other := by
  rw [stopView, perform, found]
  exact view?_settle ..

theorem openView_skeleton (name : String) (list : ListName)
    (found : service.skeleton.desk session = some desk) :
    (service.openView session name list).2.skeleton =
      service.skeleton.openCard session desk list := by
  obtain ⟨state, there, rfl⟩ := Option.map_eq_some_iff.mp found
  have guards : ((service.sessions[session]?).map (·.closing)).getD {} = state.closing := by
    simp [there]
  have desks := modifySession_skeleton there (fun session =>
    { session with closing := (state.closing.connect service.nextView).2 }) rfl
  simp only [openView, guards]
  refine Skeleton.ext (congrArg (·.signal) desks) (congrArg (·.desk) desks)
    (funext fun other => ?_) rfl
  by_cases new : other = service.nextView
  · exact (congrArg (Option.map BoundView.card) ((Assoc.get?_set ..).trans (if_pos new))).trans
      (Eq.symm (if_pos new))
  · exact (congrArg (Option.map BoundView.card) ((Assoc.get?_set ..).trans (if_neg new))).trans
      (Eq.symm (if_neg new))

theorem openView_hushed (service : Service) (session : Nat) (name : String) (list : ListName) :
    Hushed service (service.openView session name list).2 := by
  let guards := ((service.sessions[session]?).map (·.closing)).getD {}
  have guarded : Hushed service (service.modifySession session fun state =>
      { state with closing := (guards.connect service.nextView).2 }) :=
    .modify service session fun _ gone => gone
  exact ⟨guarded.gone, guarded.sent⟩

theorem eraseView_skeleton (service : Service) (id : Nat) :
    ({ service with views := Assoc.erase id service.views } : Service).skeleton =
      service.skeleton.setCard id none := by
  refine Skeleton.ext rfl rfl (funext fun other => ?_) rfl
  simp only [skeleton, view?, Skeleton.setCard, Assoc.get?_erase]
  split <;> rfl

end Views

/-- Modules of a session that are being set up or dropped: their views that are open. -/
structure Turnover (foreign : Nat → Prop) (start : Service) (session : Nat)
    (opened : List (ListName × Nat)) (forwarders : ListName → Nat → Option ConnectionId)
    (service : Service) : Prop where
  sound : service.skeleton.Sound (fun id => foreign id ∨ id ∈ opened.map (·.2)) forwarders
  own : ∀ entry ∈ opened,
    ¬ foreign entry.2 ∧ service.skeleton.Opened session entry.1 entry.2
  posts : ∀ number, service.skeleton.posts number =
    if number = session then none else start.skeleton.posts number
  hushed : Hushed start service

section Arrival

structure Arrival (foreign : Nat → Prop) (start : Service) (session : Nat)
    (opened : List (ListName × Nat)) (forwarders : ListName → Nat → Option ConnectionId)
    (service : Service) : Prop
    extends Turnover foreign start session opened forwarders service where
  desk : ∃ desk, service.skeleton.desk session = some desk

theorem Arrival.openView (arrival : Arrival foreign start session opened forwarders service)
    (name : String) (list : ListName)
    (housed : ∀ number, list = .results number →
      ∃ desk, service.skeleton.desk number = some desk) :
    Arrival foreign start session ((list, (service.openView session name list).1) :: opened)
      forwarders (service.openView session name list).2 := by
  obtain ⟨desk, found⟩ := arrival.desk
  have skeleton := openView_skeleton name list found
  have orderly := arrival.sound.orderly
  constructor
  · constructor
    · rw [skeleton]
      refine (arrival.sound.open found housed).congr fun id => ?_
      simp [Service.openView, Service.skeleton, or_comm, or_left_comm]
    · intro entry member
      rw [skeleton]
      rcases List.mem_cons.mp member with rfl | before
      · refine ⟨fun out => ?_, Skeleton.openCard_opened ..⟩
        obtain ⟨card, present⟩ := arrival.sound.staffed.outside (.inl out)
        exact Nat.lt_irrefl _ (orderly.fresh present)
      · exact ⟨(arrival.own entry before).1, (arrival.own entry before).2.stays orderly _ _ _⟩
    · intro number
      rw [skeleton, ← arrival.posts]
      exact Skeleton.openCard_posts found list number
    · exact arrival.hushed.trans (openView_hushed ..)
  · rw [skeleton]
    exact ⟨_, if_pos rfl⟩

theorem Arrival.connect (arrival : Arrival foreign start session opened forwarders service)
    (list : ListName) (shared : ∀ number, list ≠ .results number)
    (apart : forwarders list session = none) :
    Arrival foreign start session opened
      (fun other number => if other = list ∧ number = session
        then some (service.connectForwarder list session).1 else forwarders other number)
      (service.connectForwarder list session).2 := by
  have skeleton : (service.connectForwarder list session).2.skeleton =
      service.skeleton.setSignal list
        ((service.skeleton.signal list).connect (.forwarder session)).2 :=
    setSignal_skeleton fun number same => absurd same (shared number)
  constructor
  · constructor
    · rw [skeleton]
      exact arrival.sound.connect apart
    · rw [skeleton]
      exact arrival.own
    · rw [skeleton]
      exact arrival.posts
    · exact arrival.hushed.trans (.setSignal service list _)
  · rw [skeleton]
    exact arrival.desk

theorem sessions_enter (service : Service) (number : Nat) :
    (service.sessions ++ [({} : Session)])[number]? =
      if number = service.sessions.length then some {} else service.sessions[number]? := by
  rw [List.getElem?_append]
  rcases Nat.lt_trichotomy number service.sessions.length with inside | rfl | outside
  · rw [if_pos inside, if_neg (Nat.ne_of_lt inside)]
  · simp
  · have beyond : service.sessions[number]? = none := List.getElem?_eq_none (Nat.le_of_lt outside)
    have rest : 1 ≤ number - service.sessions.length := by omega
    rw [if_neg (Nat.lt_asymm outside), if_neg (Nat.ne_of_gt outside), beyond,
      List.getElem?_eq_none rest]

theorem enter_skeleton (service : Service) :
    ({ service with sessions := service.sessions ++ [({} : Session)] } : Service).skeleton =
      service.skeleton.setDesk service.sessions.length ⟨{}, none⟩ := by
  refine Skeleton.ext (funext fun list => ?_) (funext fun number => ?_) rfl rfl
  · cases list with
    | bundles | roots | hubs => rfl
    | results number =>
        simp only [skeleton, signal, sessions_enter, Skeleton.setDesk]
        split
        · rename_i here
          simp [here]
        · rfl
  · simp only [skeleton, sessions_enter, Skeleton.setDesk]
    split <;> rfl

theorem enter_hushed (service : Service) :
    Hushed service { service with sessions := service.sessions ++ [({} : Session)] } where
  gone := by
    rintro number ⟨state, found, gone⟩
    have inside := (List.getElem?_eq_some_iff.mp found).1
    exact ⟨state, by rw [sessions_enter, if_neg (Nat.ne_of_lt inside), found], gone⟩
  sent _ := rfl

theorem Arrival.enter (sound : service.skeleton.Sound foreign forwarders) :
    Arrival foreign service service.sessions.length [] forwarders
      { service with sessions := service.sessions ++ [({} : Session)] } := by
  have absent : service.skeleton.desk service.sessions.length = none := by simp [skeleton]
  constructor
  · constructor
    · rw [enter_skeleton]
      exact (sound.enter absent).congr fun id => by simp
    · exact List.forall_mem_nil _
    · intro number
      rw [enter_skeleton, Skeleton.posts_setDesk]
    · exact enter_hushed service
  · rw [enter_skeleton]
    exact ⟨_, if_pos rfl⟩

/-- The modules take over what was set up for them. -/
theorem Arrival.hire (arrival : Arrival foreign start session opened forwarders service)
    (modules : Modules)
    (views : ∀ entry, entry ∈ opened ↔
      ∃ list ∈ ListName.all session, entry = (list, modules.view list))
    (connected : ∀ list number, forwarders list number =
      if number = session then modules.forwarder list else start.skeleton.forwarders list number) :
    Changed foreign (fun number => number == session || start.served number) start
      (service.modifySession session fun state => { state with modules := some modules }) := by
  obtain ⟨desk, found⟩ := arrival.desk
  obtain ⟨state, there, rfl⟩ := Option.map_eq_some_iff.mp found
  have listed {list : ListName} (member : list ∈ ListName.all session) :
      (list, modules.view list) ∈ opened :=
    (views _).mpr ⟨list, member, rfl⟩
  have vacant : state.desk.posts = none := by
    have none := arrival.posts session
    rwa [if_pos rfl, Skeleton.posts, found] at none
  have skeleton := modifySession_skeleton there
    (fun state => { state with modules := some modules }) rfl
  have posts (number : Nat) : (service.modifySession session fun state =>
      { state with modules := some modules }).skeleton.posts number =
        if number = session then some modules.posts else start.skeleton.posts number := by
    rw [skeleton, Skeleton.posts_setDesk, arrival.posts]
    by_cases here : number = session <;> simp [here, Session.desk]
  have hired := arrival.sound.hire found vacant modules.posts fun list member =>
    (arrival.own _ (listed member)).2
  constructor
  · rw [Tidy, skeleton]
    refine (hired.congr fun id => ?_).reconnect fun list number => ?_
    · constructor
      · intro out
        refine ⟨.inl out, fun list member same => ?_⟩
        subst same
        exact (arrival.own _ (listed member)).1 out
      · rintro ⟨out | inside, apart⟩
        · exact out
        · obtain ⟨entry, there, rfl⟩ := List.mem_map.mp inside
          obtain ⟨list, member, rfl⟩ := (views entry).mp there
          exact absurd rfl (apart list member)
    · rw [connected, Skeleton.forwarders, ← skeleton, posts]
      by_cases here : number = session
      · rw [if_pos here, if_pos here]
        rfl
      · rw [if_neg here, if_neg here]
        rfl
  · intro number
    rw [served_eq, posts, served_eq]
    by_cases here : number = session <;> simp [here]
  · exact arrival.hushed.trans (.modify service session fun _ gone => gone)

/-- The search is set up first, and a forwarder before the view on its list. -/
theorem openModules_changed
    (arrival : Arrival foreign start session [] start.skeleton.forwarders service)
    (new : ∀ list, start.skeleton.forwarders list session = none) :
    Changed foreign (fun number => number == session || start.served number) start
      (service.openModules session) := by
  let result := service.openView session "search_view" (.results session)
  let queue := result.2.connectForwarder .bundles session
  let bundle := queue.2.openView session "bundle_view" .bundles
  let share := bundle.2.connectForwarder .roots session
  let root := share.2.openView session "root_view" .roots
  let hub := root.2.openView session "favorite_hub_view" .hubs
  let modules : Modules := ⟨queue.1, { known := EventNames.queue.all }, share.1,
    { known := EventNames.share.all }, bundle.1, root.1, hub.1, result.1⟩
  have arrival := arrival.openView "search_view" (.results session) fun number same =>
    ListName.results.inj same ▸ arrival.desk
  have arrival := arrival.connect .bundles nofun (new .bundles)
  have arrival := arrival.openView "bundle_view" .bundles nofun
  have arrival := arrival.connect .roots nofun ((if_neg nofun).trans (new .roots))
  have arrival := arrival.openView "root_view" .roots nofun
  have arrival := arrival.openView "favorite_hub_view" .hubs nofun
  exact arrival.hire modules (modules.listed session) (modules.connected _ new)

theorem openSession_changed (tidy : service.Tidy foreign) :
    Changed foreign (fun session => session == service.sessions.length || service.served session)
      service service.openSession.2 := by
  refine openModules_changed (.enter tidy) fun list => ?_
  simp [Skeleton.forwarders, skeleton_posts, modules?]

end Arrival

section Departure

theorem stopView_stops (found : service.view? id = some bound) :
    ∃ after, (stopView id service).view? id = some after ∧ after.attached.view.phase = .inactive :=
  ⟨_, (view?_stopView found id).trans (if_pos rfl), rfl⟩

theorem stopView_other {other : Nat} (elsewhere : other ≠ id) :
    (stopView id service).view? other = service.view? other := by
  cases found : service.view? id with
  | none => simp only [stopView, perform, found]
  | some bound => rw [view?_stopView found, if_neg elsewhere]

/-- A view is torn down before it is closed. -/
theorem closeView_skeleton (sound : service.skeleton.Sound foreign forwarders) (out : foreign id) :
    ∃ (card : Card) (desk : Desk),
      (stopView id service).skeleton.card id = some card ∧ card.active = false ∧
      (stopView id service).skeleton.desk card.session = some desk ∧
      (service.closeView id).skeleton = (stopView id service).skeleton.closeCard id card desk := by
  obtain ⟨card, present⟩ := sound.staffed.outside out
  obtain ⟨bound, found, _⟩ := Option.map_eq_some_iff.mp present
  obtain ⟨after, view, inactive⟩ := stopView_stops found
  have stopped := (Course.perform service id .stop).sound sound
  have card : (stopView id service).skeleton.card id = some after.card := by simp [skeleton, view]
  obtain ⟨desk, at_desk, _⟩ := stopped.orderly.guarded card
  obtain ⟨state, there, rfl⟩ := Option.map_eq_some_iff.mp at_desk
  refine ⟨_, _, card, by simp [BoundView.card, ListView.isActive, inactive], at_desk, ?_⟩
  have desks := modifySession_skeleton there (fun state =>
    { state with closing := (state.closing.disconnect after.closing).2 }) rfl
  simp only [closeView, view, eraseView_skeleton]
  exact congrArg (·.setCard id none) desks

theorem closeView_hushed (service : Service) (id : Nat) : Hushed service (service.closeView id) := by
  have stopped : Hushed service (stopView id service) := (Course.perform service id .stop).hushed
  unfold closeView
  dsimp only
  split
  · rename_i bound _
    have guarded : Hushed (stopView id service) ((stopView id service).modifySession bound.session
        fun state => { state with closing := (state.closing.disconnect bound.closing).2 }) :=
      .modify _ _ fun _ gone => gone
    exact (stopped.trans guarded).trans (.aside rfl rfl)
  · exact stopped

theorem Turnover.closeView
    (turnover : Turnover foreign start session ((list, id) :: opened) forwarders service)
    (apart : ∀ entry ∈ opened, entry.1 ≠ list) :
    Turnover foreign start session opened forwarders (service.closeView id) := by
  have out : foreign id ∨ id ∈ ((list, id) :: opened).map (·.2) := .inr List.mem_cons_self
  obtain ⟨card, desk, found, idle, there, skeleton⟩ := closeView_skeleton turnover.sound out
  have stopped := Course.perform service id .stop
  obtain ⟨own, at_list⟩ := turnover.own (list, id) List.mem_cons_self
  have elsewhere {entry : ListName × Nat} (member : entry ∈ opened) : entry.2 ≠ id := by
    rintro rfl
    obtain ⟨_, _, first, _, here⟩ := turnover.own entry (List.mem_cons_of_mem _ member)
    obtain ⟨_, second, _, also⟩ := at_list
    rw [first, Option.some.injEq] at second
    exact apart entry member (here.symm.trans (second ▸ also))
  constructor
  · rw [skeleton]
    refine ((stopped.sound turnover.sound).close found there out idle).congr fun number => ?_
    simp only [List.map_cons, List.mem_cons]
    constructor
    · rintro (out | inside)
      · exact ⟨.inl out, fun same => own (same ▸ out)⟩
      · obtain ⟨entry, member, rfl⟩ := List.mem_map.mp inside
        exact ⟨.inr (.inr inside), elsewhere member⟩
    · rintro ⟨out | rfl | member, apart⟩
      · exact .inl out
      · exact absurd rfl apart
      · exact .inr member
  · intro entry member
    obtain ⟨own, card, present, rest⟩ := turnover.own entry (List.mem_cons_of_mem _ member)
    refine ⟨own, card, ?_, rest⟩
    rw [skeleton, Skeleton.closeCard_card, if_neg (elsewhere member)]
    exact (congrArg (Option.map BoundView.card) (stopView_other (elsewhere member))).trans present
  · intro number
    rw [skeleton, Skeleton.closeCard_posts there, ← turnover.posts]
    exact stopped.posts number
  · exact turnover.hushed.trans (closeView_hushed service id)

theorem Turnover.disconnect (turnover : Turnover foreign start session opened forwarders service)
    (list : ListName) (shared : ∀ number, list ≠ .results number) {connection : ConnectionId}
    (held : forwarders list session = some connection) :
    Turnover foreign start session opened
      (fun other number => if other = list ∧ number = session then none
        else forwarders other number)
      (service.disconnectForwarder list connection) := by
  have skeleton : (service.disconnectForwarder list connection).skeleton =
      service.skeleton.setSignal list ((service.skeleton.signal list).disconnect connection).2 :=
    setSignal_skeleton fun number same => absurd same (shared number)
  constructor
  · rw [skeleton]
    exact turnover.sound.disconnect held
  · rw [skeleton]
    exact turnover.own
  · rw [skeleton]
    exact turnover.posts
  · exact turnover.hushed.trans (.setSignal service list _)

theorem Turnover.dismiss (sound : service.skeleton.Sound foreign forwarders) {modules : Modules}
    (hired : service.modules? session = some modules) :
    Turnover foreign service session
      [(.bundles, modules.bundleView), (.roots, modules.rootView), (.hubs, modules.hubView),
        (.results session, modules.resultView)]
      forwarders (service.modifySession session fun state => { state with modules := none }) := by
  obtain ⟨state, there, kept⟩ := Option.bind_eq_some_iff.mp hired
  have found : service.skeleton.desk session = some state.desk := by simp [skeleton, there]
  have posts : state.desk.posts = some modules.posts := by simp [Session.desk, kept]
  have skeleton := modifySession_skeleton there (fun state => { state with modules := none }) rfl
  constructor
  · rw [skeleton]
    refine (sound.dismiss found posts).congr fun id => ?_
    simp [ListName.all, Modules.posts, Modules.view, eq_comm]
  · intro entry member
    rw [skeleton]
    have served := sound.staffed.served (posts_of_modules? hired)
    have listed : ∃ list ∈ ListName.all session, entry = (list, modules.view list) := by
      simpa [ListName.all, Modules.view] using member
    obtain ⟨list, there, rfl⟩ := listed
    exact served list there
  · intro number
    rw [skeleton, Skeleton.posts_setDesk]
    rfl
  · exact .modify service session fun _ gone => gone

theorem dropModules_changed (tidy : service.Tidy foreign) (session : Nat) :
    Changed foreign (fun number => number != session && service.served number) service
      (service.dropModules session) := by
  cases hired : service.modules? session with
  | none =>
      have same : service.dropModules session = service := by simp only [dropModules, hired]
      rw [same]
      refine ⟨tidy, fun number => ?_, .refl service⟩
      by_cases here : number = session
      · simp [here, served, hired]
      · simp [here]
  | some modules =>
      have forwarder (list : ListName) :
          service.skeleton.forwarders list session = modules.forwarder list := by
        rw [Skeleton.forwarders, posts_of_modules? hired, Option.bind_some, Modules.posts]
      have turnover := Turnover.dismiss tidy hired
      have turnover := turnover.disconnect .bundles nofun (forwarder .bundles)
      have turnover := turnover.closeView (by simp)
      have turnover := turnover.disconnect .roots nofun ((if_neg nofun).trans (forwarder .roots))
      have turnover := turnover.closeView (by simp)
      have turnover := turnover.closeView (by simp)
      have turnover := turnover.closeView (by simp)
      simp only [dropModules, hired]
      refine ⟨(turnover.sound.congr fun id => by simp).reconnect fun list number => ?_,
        fun number => ?_, turnover.hushed⟩
      · rw [Skeleton.forwarders, turnover.posts]
        by_cases here : number = session
        · cases list <;> simp [here, forwarder, Modules.forwarder]
        · simp [here, Skeleton.forwarders]
      · rw [served_eq, turnover.posts, served_eq]
        by_cases here : number = session <;> simp [here]

theorem openView_changed (tidy : service.Tidy foreign) (name : String) (list : ListName)
    (found : service.skeleton.desk session = some desk)
    (housed : ∀ number, list = .results number →
      ∃ desk, service.skeleton.desk number = some desk) :
    Changed (fun id => foreign id ∨ id = service.nextView) service.served service
      (service.openView session name list).2 := by
  have skeleton := openView_skeleton name list found
  have posts (number : Nat) : (service.openView session name list).2.skeleton.posts number =
      service.skeleton.posts number := by
    rw [skeleton, Skeleton.openCard_posts found]
  refine ⟨.of_sound service ?_ posts, fun number => ?_, openView_hushed ..⟩
  · rw [skeleton]
    exact Skeleton.Sound.open tidy found housed
  · rw [served_eq, posts, served_eq]

theorem closeView_changed (tidy : service.Tidy foreign) (out : foreign id) :
    Changed (fun number => foreign number ∧ number ≠ id) service.served service
      (service.closeView id) := by
  obtain ⟨card, desk, found, idle, there, skeleton⟩ := closeView_skeleton tidy out
  have stopped := Course.perform service id .stop
  have posts (number : Nat) : (service.closeView id).skeleton.posts number =
      service.skeleton.posts number := by
    rw [skeleton, Skeleton.closeCard_posts there]
    exact stopped.posts number
  refine ⟨.of_sound service ?_ posts, fun number => ?_, closeView_hushed ..⟩
  · rw [skeleton]
    exact (stopped.sound tidy).close found there out idle
  · rw [served_eq, posts, served_eq]

end Departure

section Farewell

theorem disconnect_connected (there : service.sessions[session]? = some state)
    (connected : state.connected = true) :
    service.disconnect session = state.closing.emit stopView
      (service.modifySession session fun state => { state with connected := false }) := by
  simp only [disconnect, there, connected, ↓reduceIte]

theorem leave_course (service : Service) (session : Nat) :
    Course service (service.modifySession session fun state => { state with connected := false }) :=
  .still (modifySession_aside service session (fun _ => rfl) fun _ _ => rfl)
    (.modify service session fun _ _ => rfl)

theorem stopAll_course (closing : Signal Nat) (service : Service) :
    Course service (closing.emit stopView service) :=
  .foldl (fun service id => .perform service id .stop) closing.listeners service

theorem disconnect_course (service : Service) (session : Nat) :
    Course service (service.disconnect session) := by
  unfold disconnect
  split
  · split
    · exact (leave_course service session).trans (stopAll_course ..)
    · exact .refl service
  · exact .refl service

/-- The client is gone for good, and has been sent nothing of the end of its views. -/
theorem disconnect_gone (there : service.sessions[session]? = some state) :
    (service.disconnect session).gone session ∧
      (service.disconnect session).sentTo session = service.sentTo session := by
  cases connected : state.connected with
  | true =>
      rw [disconnect_connected there connected]
      have gone : (service.modifySession session fun state =>
          { state with connected := false }).gone session :=
        ⟨{ state with connected := false }, by simp [modifySession, there], rfl⟩
      have stopped := (stopAll_course state.closing (service.modifySession session fun state =>
        { state with connected := false })).hushed
      exact ⟨stopped.gone gone, stopped.sent gone⟩
  | false =>
      have same : service.disconnect session = service := by
        simp [disconnect, there, connected]
      rw [same]
      exact ⟨⟨state, there, connected⟩, rfl⟩

def Resting (service : Service) (id : Nat) : Prop :=
  ∃ bound, service.view? id = some bound ∧ bound.attached.view.phase = .inactive

theorem Resting.stop (resting : service.Resting id) (other : Nat) :
    (service.stopView other).Resting id := by
  obtain ⟨bound, found, inactive⟩ := resting
  by_cases same : id = other
  · subst same
    exact stopView_stops found
  · exact ⟨bound, (stopView_other same).trans found, inactive⟩

theorem Resting.stopAll (resting : service.Resting id) (ids : List Nat) :
    (ids.foldl (fun service id => stopView id service) service).Resting id := by
  induction ids generalizing service with
  | nil => exact resting
  | cons first rest ih => exact ih (resting.stop first)

/-- Of the views that are torn down, each is at rest in the end. -/
theorem stopAll_rests {ids : List Nat} (member : id ∈ ids) (found : service.view? id = some bound) :
    (ids.foldl (fun service id => stopView id service) service).Resting id := by
  induction ids generalizing service with
  | nil => cases member
  | cons first rest ih =>
      by_cases here : id = first
      · subst here
        exact Resting.stopAll (stopView_stops found) rest
      · have later := (List.mem_cons.mp member).resolve_left here
        exact ih later ((stopView_other here).trans found)

/-- With its client a session loses all activity of its views. -/
theorem disconnect_rests (tidy : service.Tidy foreign)
    (there : service.sessions[session]? = some state) (connected : state.connected = true)
    {modules : Modules} (hired : state.modules = some modules) :
    ∀ list ∈ ListName.all session, (service.disconnect session).Resting (modules.view list) := by
  intro list member
  have serving : service.modules? session = some modules := by simp [modules?, there, hired]
  obtain ⟨_, card, present, rfl, _⟩ := tidy.serves serving list member
  obtain ⟨desk, at_desk, guard⟩ := tidy.orderly.guarded present
  obtain ⟨bound, found, rfl⟩ := Option.map_eq_some_iff.mp present
  have same : desk = state.desk := by
    have kept : service.skeleton.desk bound.card.session = some state.desk :=
      congrArg (Option.map Session.desk) there
    exact Option.some.inj (at_desk.symm.trans kept)
  subst same
  rw [disconnect_connected there connected]
  exact stopAll_rests (Signal.mem_listeners_of_listener? guard) found

end Farewell

end Service

end LiveList
