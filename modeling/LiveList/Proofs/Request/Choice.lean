import LiveList.Proofs.Request.Shape

/-!
The choice of a route. What a table makes of a request is said by the routes that are in it, and if
no request is one of two routes, nothing is left to the order in which they stand.
-/

namespace LiveList.Route

variable {Action Other : Type} {route : Route Action} {routes others : List (Route Action)}
  {method topic : String} {path rest values : List String}

/-- A path read by a route: its topic first, and the rest by its shape. -/
def Reads (route : Route Action) (path values : List String) : Prop :=
  ∃ rest, path = route.topic :: rest ∧ Segment.Reads route.shape rest values

def Leads (route : Route Action) (path : List String) : Prop := ∃ values, route.Reads path values

def Answers (route : Route Action) (method : String) (path : List String) : Prop :=
  route.method = method ∧ route.Leads path

theorem leads_iff :
    route.Leads path ↔
      ∃ rest, path = route.topic :: rest ∧ Segment.acceptAll route.shape rest = true := by
  constructor
  · rintro ⟨values, rest, along, reads⟩
    exact ⟨rest, along, (Segment.reads_iff.mp reads).1⟩
  · rintro ⟨rest, along, accepted⟩
    exact ⟨_, rest, along, Segment.reads_iff.mpr ⟨accepted, rfl⟩⟩

theorem fits_iff :
    route.fits topic rest = true ↔
      topic = route.topic ∧ Segment.acceptAll route.shape rest = true := by
  rw [fits, Bool.and_eq_true, beq_iff_eq, eq_comm]

theorem leads_cons : route.Leads (topic :: rest) ↔ route.fits topic rest = true := by
  rw [leads_iff, fits_iff]
  constructor
  · rintro ⟨_, ⟨⟩, accepted⟩
    exact ⟨rfl, accepted⟩
  · rintro ⟨rfl, accepted⟩
    exact ⟨rest, rfl, accepted⟩

theorem reads_capture (fits : route.fits topic rest = true) :
    route.Reads (topic :: rest) (Segment.capture route.shape rest) := by
  obtain ⟨rfl, accepted⟩ := fits_iff.mp fits
  exact ⟨rest, rfl, Segment.reads_iff.mpr ⟨accepted, rfl⟩⟩

theorem Reads.unique {one other : List String} (first : route.Reads path one)
    (second : route.Reads path other) : one = other := by
  obtain ⟨rest, rfl, first⟩ := first
  obtain ⟨_, ⟨⟩, second⟩ := second
  exact (Segment.reads_iff.mp first).2.symm.trans (Segment.reads_iff.mp second).2

/-! What a table makes of a request -/

def missing : List String → String
  | [] => "Missing path section"
  | path => "Invalid path '" ++ String.intercalate "/" path ++ "'"

/-- There are routes for the path, but none of them has the method. -/
def Refuses (routes : List (Route Action)) (method : String) (path : List String) : Prop :=
  (∃ route ∈ routes, route.Leads path) ∧ ∀ route ∈ routes, ¬ route.Answers method path

/-- What a table may make of a request, going by the routes that are in it. -/
inductive Choice (routes : List (Route Action)) (method : String) (path : List String) :
    Except RequestError (Action × Captured) → Prop where
  | found {route : Route Action} {values : List String} (member : route ∈ routes)
      (same : route.method = method) (reads : route.Reads path values) :
      Choice routes method path (.ok (route.action, { values }))
  | refused (refuses : Refuses routes method path) :
      Choice routes method path (.error (.methodNotAllowed method))
  | unknown (none : ∀ route ∈ routes, ¬ route.Leads path) :
      Choice routes method path (.error (.notFound (missing path)))

theorem choose_choice (routes : List (Route Action)) (method : String) (path : List String) :
    Choice routes method path (choose routes method path) := by
  cases path with
  | nil =>
      refine .unknown fun route _ leads => ?_
      obtain ⟨_, _, ⟨⟩, _⟩ := leads
  | cons topic rest =>
      -- The path is decided first: the method is only looked for among the routes that fit.
      have fitting {route : Route Action} :
          (route ∈ routes.filter fun route => route.fits topic rest) ↔
            route ∈ routes ∧ route.Leads (topic :: rest) := by
        rw [List.mem_filter, leads_cons]
      simp only [choose]
      split
      · rename_i route found
        obtain ⟨member, fits⟩ := List.mem_filter.mp (List.mem_of_find?_eq_some found)
        exact .found member (by simpa using List.find?_some found) (reads_capture fits)
      · rename_i absent
        have none : ∀ route ∈ routes, ¬ route.Answers method (topic :: rest) := by
          rintro route member ⟨same, leads⟩
          simpa [same] using List.find?_eq_none.mp absent route (fitting.mpr ⟨member, leads⟩)
        split
        · rename_i empty
          refine .unknown fun route member leads => ?_
          have there := fitting.mpr ⟨member, leads⟩
          rw [List.isEmpty_iff.mp empty] at there
          cases there
        · rename_i some
          obtain ⟨route, there⟩ :=
            List.exists_mem_of_ne_nil _ fun empty => some (List.isEmpty_iff.mpr empty)
          exact .refused ⟨⟨route, fitting.mp there⟩, none⟩

/-! Routes that have no request in common -/

section Pairs

variable {first : Route Action} {second : Route Other}

def Apart (first : Route Action) (second : Route Other) : Prop :=
  ∀ method path, first.Answers method path → ¬ second.Answers method path

/-- Two routes that have no request in common under any topic that is given to both. -/
def Unlike (first : Route Action) (second : Route Other) : Prop :=
  first.method ≠ second.method ∨ Segment.meetAll first.shape second.shape = false

instance (first : Route Action) (second : Route Other) : Decidable (first.Unlike second) :=
  inferInstanceAs (Decidable (_ ∨ _))

theorem apart_iff : first.Apart second ↔ first.topic ≠ second.topic ∨ first.Unlike second := by
  constructor
  · intro apart
    by_cases topic : first.topic = second.topic
    · by_cases method : first.method = second.method
      · refine .inr (.inr (Bool.eq_false_iff.mpr fun meet => ?_))
        obtain ⟨rest, here, there⟩ := Segment.meetAll_iff.mp meet
        exact apart first.method (first.topic :: rest) ⟨rfl, leads_iff.mpr ⟨rest, rfl, here⟩⟩
          ⟨method.symm, leads_iff.mpr ⟨rest, by rw [topic], there⟩⟩
      · exact .inr (.inl method)
    · exact .inl topic
  · rintro apart _ path ⟨rfl, here⟩ ⟨method, there⟩
    obtain ⟨rest, rfl, accepted⟩ := leads_iff.mp here
    obtain ⟨_, path, also⟩ := leads_iff.mp there
    obtain ⟨topic, rfl⟩ := List.cons.inj path
    rcases apart with other | other | separate
    · exact other topic
    · exact other method.symm
    · rw [Segment.meetAll_iff.mpr ⟨rest, accepted, also⟩] at separate
      cases separate

instance (first : Route Action) (second : Route Other) : Decidable (first.Apart second) :=
  decidable_of_iff _ apart_iff.symm

end Pairs

def Separate (routes : List (Route Action)) : Prop := routes.Pairwise Apart

instance (routes : List (Route Action)) : Decidable (Separate routes) :=
  inferInstanceAs (Decidable (routes.Pairwise Apart))

/-- What a route is for does not decide which requests are its own. -/
theorem separate_map (change : Action → Other) :
    Separate (routes.map (·.map change)) ↔ Separate routes :=
  List.pairwise_map

variable {first second : Route Action}

/-- A request is one of the routes in at most one place of the table. -/
theorem Separate.single (separate : Separate routes) {i j : Nat} (here : routes[i]? = some first)
    (there : routes[j]? = some second) (one : first.Answers method path)
    (other : second.Answers method path) : i = j := by
  obtain ⟨hi, rfl⟩ := List.getElem?_eq_some_iff.mp here
  obtain ⟨hj, rfl⟩ := List.getElem?_eq_some_iff.mp there
  have apart := List.pairwise_iff_getElem.mp separate
  rcases Nat.lt_trichotomy i j with before | same | after
  · exact absurd other (apart i j hi hj before method path one)
  · exact same
  · exact absurd one (apart j i hj hi after method path other)

theorem Separate.unique (separate : Separate routes) (here : first ∈ routes)
    (there : second ∈ routes) (one : first.Answers method path)
    (other : second.Answers method path) : first = second := by
  obtain ⟨i, here⟩ := List.mem_iff_getElem?.mp here
  obtain ⟨j, there⟩ := List.mem_iff_getElem?.mp there
  obtain rfl := separate.single here there one other
  exact Option.some.inj (here.symm.trans there)

/-! Tables in which the order does not matter -/

namespace Choice

variable {outcome result : Except RequestError (Action × Captured)}

/-- Only the routes that are in the table count. -/
theorem congr (same : ∀ route, route ∈ others ↔ route ∈ routes)
    (choice : Choice others method path outcome) : Choice routes method path outcome := by
  cases choice with
  | found member method reads => exact .found ((same _).mp member) method reads
  | refused refuses =>
      obtain ⟨⟨route, member, leads⟩, none⟩ := refuses
      exact .refused ⟨⟨route, (same route).mp member, leads⟩, fun route member =>
        none route ((same route).mpr member)⟩
  | unknown none => exact .unknown fun route member => none route ((same route).mpr member)

theorem unique (separate : Separate routes) (one : Choice routes method path outcome)
    (other : Choice routes method path result) : outcome = result := by
  -- Of two different outcomes, one has a route that by the other cannot be in the table.
  cases one with
  | found member same reads =>
      cases other with
      | found also method read =>
          obtain rfl := separate.unique member also ⟨same, _, reads⟩ ⟨method, _, read⟩
          rw [reads.unique read]
      | refused refuses => exact absurd ⟨same, _, reads⟩ (refuses.2 _ member)
      | unknown none => exact absurd ⟨_, reads⟩ (none _ member)
  | refused refuses =>
      cases other with
      | found member same reads => exact absurd ⟨same, _, reads⟩ (refuses.2 _ member)
      | refused => rfl
      | unknown none =>
          obtain ⟨route, member, leads⟩ := refuses.1
          exact absurd leads (none route member)
  | unknown none =>
      cases other with
      | found member _ reads => exact absurd ⟨_, reads⟩ (none _ member)
      | refused refuses =>
          obtain ⟨route, member, leads⟩ := refuses.1
          exact absurd leads (none route member)
      | unknown => rfl

end Choice

theorem Separate.choose_eq_iff (separate : Separate routes)
    {outcome : Except RequestError (Action × Captured)} :
    choose routes method path = outcome ↔ Choice routes method path outcome := by
  constructor
  · rintro rfl
    exact choose_choice routes method path
  · exact (choose_choice routes method path).unique separate

/-- A table in which the order of the routes does not matter. -/
structure Orderless (routes : List (Route Action)) : Prop where
  /-- A request is one of the routes in at most one place of the table. -/
  single : ∀ (method : String) (path : List String) (i j : Nat) (first second : Route Action),
    routes[i]? = some first → routes[j]? = some second →
    first.Answers method path → second.Answers method path → i = j
  permuted : ∀ others, List.Perm others routes →
    ∀ method path, choose others method path = choose routes method path
  found : ∀ method path action values, choose routes method path = .ok (action, { values }) ↔
    ∃ route ∈ routes, route.method = method ∧ route.Reads path values ∧ route.action = action
  refused : ∀ method path other, choose routes method path = .error (.methodNotAllowed other) ↔
    other = method ∧ Refuses routes method path
  unknown : ∀ method path message, choose routes method path = .error (.notFound message) ↔
    message = missing path ∧ ∀ route ∈ routes, ¬ route.Leads path

/-- Two routes with a request in common can be told apart by nothing but their order. -/
theorem Orderless.separate (orderless : Orderless routes) : Separate routes := by
  refine List.pairwise_iff_getElem.mpr fun i j hi hj before method path one other => ?_
  have same := orderless.single method path i j _ _ (List.getElem?_eq_getElem hi)
    (List.getElem?_eq_getElem hj) one other
  omega

theorem Separate.orderless (separate : Separate routes) : Orderless routes where
  single _ _ _ _ _ _ := separate.single
  permuted others order method path := by
    have choice := choose_choice others method path
    exact (separate.choose_eq_iff.mpr (choice.congr fun route => order.mem_iff)).symm
  found method path action values := by
    rw [separate.choose_eq_iff]
    constructor
    · intro choice
      cases choice with
      | found member same reads => exact ⟨_, member, same, reads, rfl⟩
    · rintro ⟨route, member, same, reads, rfl⟩
      exact .found member same reads
  refused method path other := by
    rw [separate.choose_eq_iff]
    constructor
    · intro choice
      cases choice with
      | refused refuses => exact ⟨rfl, refuses⟩
    · rintro ⟨rfl, refuses⟩
      exact .refused refuses
  unknown method path message := by
    rw [separate.choose_eq_iff]
    constructor
    · intro choice
      cases choice with
      | unknown none => exact ⟨rfl, none⟩
    · rintro ⟨rfl, none⟩
      exact .unknown none

instance (routes : List (Route Action)) : Decidable (Orderless routes) :=
  decidable_of_iff (Separate routes) ⟨Separate.orderless, Orderless.separate⟩

end LiveList.Route
