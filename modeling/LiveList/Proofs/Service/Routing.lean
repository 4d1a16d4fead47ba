import LiveList.Proofs.Request.Choice
import LiveList.Proofs.Service.Methods

/-!
The routes of the modules. In none of the four tables does the order of the routes matter, and a
module puts the blame on the method of a request only where its table does: no action that was
chosen ever does.
-/

namespace LiveList

open Route

/-! The tables -/

/-- The name of a view decides where its routes are found, and nothing else. -/
theorem ViewAction.routes_eq (view : String) :
    routes view = (routes "").map fun route => { route with topic := view } :=
  rfl

theorem ViewAction.routes_separate (view : String) : Separate (routes view) := by
  have unlike : (routes "").Pairwise Unlike := by decide
  rw [routes_eq, Separate, List.pairwise_map]
  refine unlike.imp fun {first second} unlike => ?_
  exact apart_iff.mpr (.inr unlike)

section Tables

variable {Events Own : Type} {events : List (Route Events)} {own : List (Route Own)}

theorem ViewAction.routes_apart {view : String}
    (apart : ∀ route ∈ routes "", ∀ other ∈ own, view ≠ other.topic ∨ route.Unlike other) :
    ∀ route ∈ routes view, ∀ other ∈ own, route.Apart other := by
  intro route member other there
  rw [routes_eq] at member
  obtain ⟨plain, listed, rfl⟩ := List.mem_map.mp member
  exact apart_iff.mpr (apart plain listed other there)

/-- A module whose own routes are unlike those of a view may call its view anything but what is the
topic of its events. -/
theorem ModuleAction.routes_separate (view : String) (eventsSeparate : Separate events)
    (ownSeparate : Separate own) (apart : ∀ event ∈ events, ∀ route ∈ own, event.Apart route)
    (unlike : ∀ route ∈ ViewAction.routes "", ∀ other ∈ own, route.Unlike other)
    (elsewhere : ∀ event ∈ events, view ≠ event.topic) :
    Separate (ModuleAction.routes view events own) := by
  rw [ModuleAction.routes, Separate, List.pairwise_append, List.pairwise_append]
  refine ⟨⟨(separate_map _).mpr (ViewAction.routes_separate view),
    (separate_map _).mpr eventsSeparate, ?_⟩, (separate_map _).mpr ownSeparate, ?_⟩
  · simp only [List.forall_mem_map]
    exact ViewAction.routes_apart fun _ _ event there => .inl (elsewhere event there)
  · simp only [List.forall_mem_append, List.forall_mem_map]
    refine ⟨ViewAction.routes_apart fun route member other there => ?_, apart⟩
    exact .inr (unlike route member other there)

end Tables

/-- To the queue a view with the topic of the events would be no view: its filters would be taken
for events. -/
example : ¬ Orderless (ModuleAction.routes "listener" EventAction.routes QueueAction.routes) := by
  decide

theorem queueRoutes_separate : Separate queueRoutes :=
  ModuleAction.routes_separate _ (by decide) (by decide) (by decide) (by decide) (by decide)

theorem shareRoutes_separate : Separate shareRoutes :=
  ModuleAction.routes_separate _ (by decide) (by decide) (by decide) (by decide) (by decide)

theorem hubRoutes_separate : Separate hubRoutes :=
  ModuleAction.routes_separate _ (by decide) (by decide) (by decide) (by decide) (by decide)

theorem searchRoutes_separate : Separate searchRoutes :=
  ModuleAction.routes_separate _ (by decide) (by decide) (by decide) (by decide) (by decide)

/-! The service -/

namespace Service

variable (service : Service)

/-- Where what follows the choice of a route allows the method, only the choice refuses it. -/
theorem proceed_refused_iff {Action : Type} {routes : List (Route Action)}
    (separate : Separate routes) {method other : String} {path : List String}
    {next : Action × Captured → Service × Except RequestError Response}
    (rest : ∀ chosen, Allows (next chosen).2) :
    (service.proceed (choose routes method path) next).2 = .error (.methodNotAllowed other) ↔
      other = method ∧ Refuses routes method path := by
  rw [← separate.orderless.refused]
  cases choose routes method path with
  | ok value => exact ⟨fun refused => absurd refused (rest value other), nofun⟩
  | error error =>
      constructor
      · intro refused
        rw [Except.error.inj refused]
      · intro refused
        rw [Except.error.inj refused, proceed]

variable (request : Request) {path : List String} {method : String}

/-- Where the actions of a module allow the method, only its table refuses it. -/
theorem serveModule_refused_iff {Events Own : Type}
    {routes : List (Route (ModuleAction Events Own))} (separate : Separate routes) (view : Nat)
    {events : Events → Captured → Service × Except RequestError Response}
    {own : Own → Captured → Service × Except RequestError Response}
    (eventsAllow : ∀ action captured, Allows (events action captured).2)
    (ownAllow : ∀ action captured, Allows (own action captured).2) :
    (service.serveModule routes view request path events own).2 =
        .error (.methodNotAllowed method) ↔
      method = request.method ∧ Refuses routes request.method path := by
  refine service.proceed_refused_iff separate fun (action, captured) => ?_
  cases action with
  | view action => exact service.serveView_allows _ _ _ _
  | events action => exact eventsAllow action captured
  | own action => exact ownAllow action captured

end Service

namespace ModuleName

def Refuses : ModuleName → String → List String → Prop
  | queue => Route.Refuses queueRoutes
  | shareRoots => Route.Refuses shareRoutes
  | favoriteHubs => Route.Refuses hubRoutes
  | search => Route.Refuses searchRoutes

theorem ofText?_eq_some {text : String} {name : ModuleName} :
    ofText? text = some name ↔ name.text = text := by
  constructor
  · intro found
    unfold ofText? at found
    simpa using List.find?_some found
  · rintro rfl
    cases name <;> decide

end ModuleName

namespace Service

/-- The module that a request is for has routes for its path, but none with its method. -/
def Refuses (service : Service) (session : Nat) (request : Request) : Prop :=
  (service.modules? session).isSome ∧ ∃ (name : ModuleName) (path : List String),
    request.path = name.text :: path ∧ name.Refuses request.method path

theorem refuses_iff {service : Service} {session : Nat} {modules : Modules} {request : Request}
    {name : ModuleName} {text : String} {path : List String}
    (there : service.modules? session = some modules) (along : request.path = text :: path)
    (named : ModuleName.ofText? text = some name) :
    service.Refuses session request ↔ name.Refuses request.method path := by
  constructor
  · rintro ⟨-, other, rest, same, refuses⟩
    obtain ⟨rfl, rfl⟩ := List.cons.inj (along.symm.trans same)
    obtain rfl := Option.some.inj (named.symm.trans (ModuleName.ofText?_eq_some.mpr rfl))
    exact refuses
  · intro refuses
    refine ⟨by rw [there, Option.isSome_some], name, path, ?_, refuses⟩
    rw [along, ModuleName.ofText?_eq_some.mp named]

theorem serve_refused_iff (service : Service) (now session : Nat) (request : Request)
    (method : String) :
    (service.serve now session request).2 = .error (.methodNotAllowed method) ↔
      method = request.method ∧ service.Refuses session request := by
  unfold serve
  split
  · rename_i nowhere
    refine ⟨nofun, ?_⟩
    rintro ⟨-, -, _, _, along, -⟩
    rw [nowhere] at along
    cases along
  · rename_i text path along
    split
    · rename_i named there
      rw [refuses_iff there along named]
      refine service.serveModule_refused_iff request queueRoutes_separate _
        (fun action captured => ?_) fun action captured => ?_
      · exact service.serveEvents_allows session action captured _ _
      · exact service.queue.owner.serve_allows captured request now action
    · rename_i named there
      rw [refuses_iff there along named]
      refine service.serveModule_refused_iff request shareRoutes_separate _
        (fun action captured => ?_) fun action captured => ?_
      · exact service.serveEvents_allows session action captured _ _
      · exact service.share.owner.serve_allows captured request action
    · rename_i named there
      rw [refuses_iff there along named]
      refine service.serveModule_refused_iff request hubRoutes_separate _
        (fun none => none.elim) fun action captured => ?_
      exact service.hubs.owner.serve_allows captured request action
    · rename_i named there
      rw [refuses_iff there along named]
      refine service.serveModule_refused_iff request searchRoutes_separate _
        (fun none => none.elim) fun action captured => ?_
      exact (service.search session).serve_allows captured request action
    · -- There are no modules, or none has the name, so that there is nobody to refuse the method.
      rename_i queue share hubs search
      refine ⟨nofun, ?_⟩
      rintro ⟨-, there, name, rest, same, -⟩
      obtain ⟨modules, there⟩ := Option.isSome_iff_exists.mp there
      obtain ⟨rfl, -⟩ := List.cons.inj (along.symm.trans same)
      have named := ModuleName.ofText?_eq_some.mpr (Eq.refl name.text)
      cases name with
      | queue => exact (queue modules named there).elim
      | shareRoots => exact (share modules named there).elim
      | favoriteHubs => exact (hubs modules named there).elim
      | search => exact (search modules named there).elim

end Service

/-- In none of the modules does the order of the routes matter, and a request is refused for its
method exactly where its module has routes for the path, but none with the method. -/
theorem routes_orderless :
    Orderless queueRoutes ∧ Orderless shareRoutes ∧ Orderless hubRoutes ∧ Orderless searchRoutes ∧
      ∀ (service : Service) (now session : Nat) (request : Request) (method : String),
        (service.serve now session request).2 = .error (.methodNotAllowed method) ↔
          method = request.method ∧ service.Refuses session request :=
  ⟨queueRoutes_separate.orderless, shareRoutes_separate.orderless, hubRoutes_separate.orderless,
    searchRoutes_separate.orderless, Service.serve_refused_iff⟩

/-- A word in the place of a token is not taken for one, even where the token comes first. -/
example : choose queueRoutes.reverse "POST" ["bundle", "file"] = .ok (.own .addFile, {}) ∧
    choose queueRoutes.reverse "PATCH" ["bundle", "file"] = .error (.methodNotAllowed "PATCH") :=
  ⟨rfl, rfl⟩

end LiveList
