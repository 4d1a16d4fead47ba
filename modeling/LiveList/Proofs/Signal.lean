import LiveList.Signal

/-!
Connections of a signal. Connecting adds one listener, and removing a connection takes its own
listener away; all other connections keep theirs. A place that is used again is empty.
-/

namespace LiveList.Signal

variable {Listener : Type} {signal : Signal Listener} {listener : Listener} {id : ConnectionId}

/-- The places to be used again are empty, and none of them is used twice. -/
structure Sound (signal : Signal Listener) : Prop where
  once : signal.free.Nodup
  empty : ∀ place ∈ signal.free, ∃ round, signal.places[place]? = some ⟨round, none⟩

theorem Sound.start : ({} : Signal Listener).Sound := ⟨List.nodup_nil, by simp⟩

theorem modify_parts {Item : Type} {items : List Item} {place : Nat} {item : Item}
    (found : items[place]? = some item) (change : Item → Item) :
    ∃ before after, items = before ++ item :: after ∧
      items.modify place change = before ++ change item :: after := by
  induction items generalizing place with
  | nil => simp at found
  | cons first rest ih =>
      cases place with
      | zero =>
          simp only [List.getElem?_cons_zero, Option.some.injEq] at found
          subst found
          exact ⟨[], rest, rfl, by simp⟩
      | succ place =>
          rw [List.getElem?_cons_succ] at found
          obtain ⟨before, after, parts, modified⟩ := ih found
          refine ⟨first :: before, after, by simp [parts], ?_⟩
          rw [List.modify_succ_cons, modified]
          rfl

theorem Sound.connect (sound : signal.Sound) (listener : Listener) :
    (signal.connect listener).2.Sound := by
  unfold Signal.connect
  cases free : signal.free with
  | nil => exact ⟨List.nodup_nil, by simp⟩
  | cons place rest =>
      have once := free ▸ sound.once
      rw [List.nodup_cons] at once
      refine ⟨once.2, fun other member => ?_⟩
      have elsewhere : place ≠ other := fun same => once.1 (same ▸ member)
      obtain ⟨round, empty⟩ := sound.empty other (free ▸ List.mem_cons_of_mem place member)
      exact ⟨round, by simp [elsewhere, empty]⟩

theorem Sound.connect_listeners (sound : signal.Sound) (listener : Listener) :
    ∃ before after, signal.listeners = before ++ after ∧
      (signal.connect listener).2.listeners = before ++ listener :: after := by
  unfold Signal.connect listeners
  cases free : signal.free with
  | nil => exact ⟨signal.places.filterMap (·.listener), [], by simp, by simp⟩
  | cons place rest =>
      obtain ⟨round, empty⟩ := sound.empty place (free ▸ List.mem_cons_self)
      obtain ⟨before, after, parts, modified⟩ := modify_parts empty
        fun old => { old with listener := some listener }
      exact ⟨before.filterMap (·.listener), after.filterMap (·.listener), by simp [parts],
        by simp [modified]⟩

/-- The new connection has the new listener, and all others are as they were. -/
theorem Sound.listener?_connect (sound : signal.Sound) (listener : Listener) (id : ConnectionId) :
    (signal.connect listener).2.listener? id =
      if id = (signal.connect listener).1 then some listener else signal.listener? id := by
  obtain ⟨place, round⟩ := id
  unfold Signal.connect listener?
  cases free : signal.free with
  | nil =>
      rcases Nat.lt_trichotomy place signal.places.length with inside | rfl | outside
      · simp [List.getElem?_append_left inside, Nat.ne_of_lt inside]
      · by_cases first : round = 0
        · simp [first]
        · simp [first, Ne.symm first]
      · have beyond : (signal.places ++ [⟨0, some listener⟩])[place]? = none := by
          simp only [List.getElem?_eq_none_iff, List.length_append, List.length_singleton]
          omega
        simp [beyond, Nat.ne_of_gt outside, Nat.le_of_lt outside]
  | cons left rest =>
      obtain ⟨last, empty⟩ := sound.empty left (free ▸ List.mem_cons_self)
      by_cases here : left = place
      · subst here
        by_cases same : last = round
        · simp [empty, same]
        · simp [empty, same, Ne.symm same]
      · simp [here, Ne.symm here]

/-- Nobody had the id of a new connection before. -/
theorem Sound.listener?_fresh (sound : signal.Sound) (listener : Listener) :
    signal.listener? (signal.connect listener).1 = none := by
  unfold Signal.connect listener?
  cases free : signal.free with
  | nil => simp
  | cons place rest =>
      obtain ⟨round, empty⟩ := sound.empty place (free ▸ List.mem_cons_self)
      simp [empty]

theorem place_of_listener? (found : signal.listener? id = some listener) :
    signal.places[id.place]? = some ⟨id.round, some listener⟩ := by
  unfold listener? at found
  split at found
  · rename_i place there
    split at found
    · rename_i round
      rw [there, ← round, ← found]
    · cases found
  · cases found

theorem disconnect_answer (signal : Signal Listener) (id : ConnectionId) :
    (signal.disconnect id).1 = (signal.listener? id).isSome := by
  unfold disconnect
  split <;> simp_all

theorem disconnect_present (found : signal.listener? id = some listener) :
    (signal.disconnect id).2 = signal.vacate id.place := by
  simp [disconnect, found]

theorem disconnect_absent (missing : signal.listener? id = none) :
    (signal.disconnect id).2 = signal := by
  simp [disconnect, missing]

theorem Sound.disconnect (sound : signal.Sound) (id : ConnectionId) :
    (signal.disconnect id).2.Sound := by
  cases found : signal.listener? id with
  | none => rwa [disconnect_absent found]
  | some listener =>
      have there := place_of_listener? found
      have taken : id.place ∉ signal.free := by
        intro member
        obtain ⟨round, empty⟩ := sound.empty _ member
        rw [there] at empty
        cases empty
      rw [disconnect_present found]
      refine ⟨List.nodup_cons.mpr ⟨taken, sound.once⟩, fun other member => ?_⟩
      rcases List.mem_cons.mp member with rfl | old
      · exact ⟨id.round + 1, by simp [vacate, there]⟩
      · have elsewhere : id.place ≠ other := fun same => taken (same ▸ old)
        obtain ⟨round, empty⟩ := sound.empty other old
        exact ⟨round, by simp [vacate, elsewhere, empty]⟩

theorem disconnect_listeners (found : signal.listener? id = some listener) :
    ∃ before after, signal.listeners = before ++ listener :: after ∧
      (signal.disconnect id).2.listeners = before ++ after := by
  obtain ⟨before, after, parts, modified⟩ := modify_parts (place_of_listener? found)
    fun old => { round := old.round + 1, listener := none }
  rw [disconnect_present found]
  refine ⟨before.filterMap (·.listener), after.filterMap (·.listener), ?_, ?_⟩
  · simp [listeners, parts]
  · simp [listeners, vacate, modified]

theorem mem_listeners_of_listener? (found : signal.listener? id = some listener) :
    listener ∈ signal.listeners := by
  obtain ⟨before, after, parts, _⟩ := disconnect_listeners found
  rw [parts]
  exact List.mem_append_right before List.mem_cons_self

/-- A connection that was removed is gone, and all others are as they were. -/
theorem listener?_disconnect (signal : Signal Listener) (id other : ConnectionId) :
    (signal.disconnect id).2.listener? other =
      if other = id then none else signal.listener? other := by
  cases found : signal.listener? id with
  | none =>
      rw [disconnect_absent found]
      split
      · rename_i same
        rwa [same]
      · rfl
  | some listener =>
      have there := place_of_listener? found
      rw [disconnect_present found]
      obtain ⟨place, round⟩ := other
      by_cases here : id.place = place
      · subst here
        -- The place has moved on to the next round, in which it is empty.
        by_cases same : id.round = round
        · subst same
          simp [listener?, vacate, there]
        · have apart : (⟨id.place, round⟩ : ConnectionId) ≠ id := fun equal => same (by rw [← equal])
          simp [listener?, vacate, there, same, apart]
      · have apart : (⟨place, round⟩ : ConnectionId) ≠ id := fun equal => here (by rw [← equal])
        simp [listener?, vacate, here, apart]

section Count

variable [DecidableEq Listener]

theorem Sound.count_connect (sound : signal.Sound) (listener other : Listener) :
    (signal.connect listener).2.listeners.count other =
      signal.listeners.count other + if listener = other then 1 else 0 := by
  obtain ⟨before, after, old, new⟩ := sound.connect_listeners listener
  rw [old, new, List.count_append, List.count_cons, List.count_append]
  simp only [beq_iff_eq]
  omega

theorem count_disconnect (found : signal.listener? id = some listener) (other : Listener) :
    (signal.disconnect id).2.listeners.count other + (if listener = other then 1 else 0) =
      signal.listeners.count other := by
  obtain ⟨before, after, old, new⟩ := disconnect_listeners found
  rw [old, new, List.count_append, List.count_append, List.count_cons]
  simp only [beq_iff_eq]
  omega

end Count

section Given

/-- An id that was given out: its connection is there, or its place was left since. -/
def Given (signal : Signal Listener) (id : ConnectionId) : Prop :=
  ∃ place ∈ signal.places[id.place]?,
    id.round < place.round ∨ (id.round = place.round ∧ place.listener.isSome = true)

theorem given_of_listener? (found : signal.listener? id = some listener) : signal.Given id :=
  ⟨_, place_of_listener? found, .inr ⟨rfl, rfl⟩⟩

/-- The id of a new connection was never given out before. -/
theorem Sound.not_given (sound : signal.Sound) (listener : Listener) :
    ¬ signal.Given (signal.connect listener).1 := by
  unfold Signal.connect Given
  cases free : signal.free with
  | nil => simp
  | cons place rest =>
      obtain ⟨round, empty⟩ := sound.empty place (free ▸ List.mem_cons_self)
      simp [empty]

theorem Sound.given_connect (sound : signal.Sound) (given : signal.Given id)
    (listener : Listener) : (signal.connect listener).2.Given id := by
  obtain ⟨old, there, earlier⟩ := given
  unfold Signal.connect
  cases free : signal.free with
  | nil =>
      have inside := (List.getElem?_eq_some_iff.mp there).1
      exact ⟨old, by rwa [List.getElem?_append_left inside], earlier⟩
  | cons place rest =>
      by_cases here : place = id.place
      · obtain ⟨round, empty⟩ := sound.empty place (free ▸ List.mem_cons_self)
        rw [here] at empty
        obtain rfl := Option.some.inj (there.symm.trans empty)
        refine ⟨⟨round, some listener⟩, by simp [here, empty], .inl ?_⟩
        simpa using earlier
      · exact ⟨old, by simpa [here] using there, earlier⟩

theorem given_disconnect (given : signal.Given id) (other : ConnectionId) :
    (signal.disconnect other).2.Given id := by
  cases found : signal.listener? other with
  | none => rwa [disconnect_absent found]
  | some listener =>
      obtain ⟨old, there, earlier⟩ := given
      rw [disconnect_present found]
      by_cases here : other.place = id.place
      · refine ⟨{ round := old.round + 1, listener := none }, ?_, .inl ?_⟩
        · simp [vacate, here, Option.mem_def.mp there]
        · show id.round < old.round + 1
          omega
      · exact ⟨old, by simpa [vacate, here] using there, earlier⟩

end Given

section All

variable {places : List Nat}

theorem mem_occupied {place : Nat} :
    place ∈ signal.occupied ↔
      ∃ round listener, signal.places[place]? = some ⟨round, some listener⟩ := by
  rw [occupied, List.mem_filter, List.mem_range]
  constructor
  · rintro ⟨_, taken⟩
    cases there : signal.places[place]? with
    | none => simp [there] at taken
    | some old =>
        obtain ⟨round, listener⟩ := old
        cases listener with
        | none => simp [there] at taken
        | some listener => exact ⟨round, listener, rfl⟩
  · rintro ⟨round, listener, there⟩
    exact ⟨(List.getElem?_eq_some_iff.mp there).1, by simp [there]⟩

/-- To vacate a place that is taken is to remove its connection. -/
theorem vacate_eq_disconnect {place round : Nat}
    (there : signal.places[place]? = some ⟨round, some listener⟩) :
    signal.vacate place = (signal.disconnect ⟨place, round⟩).2 := by
  have found : signal.listener? ⟨place, round⟩ = some listener := by
    simp [listener?, there]
  rw [disconnect_present found]

theorem mem_occupied_vacate {place other : Nat} (apart : place ≠ other)
    (taken : other ∈ signal.occupied) : other ∈ (signal.vacate place).occupied := by
  rw [mem_occupied] at taken ⊢
  simpa [vacate, apart] using taken

theorem foldl_vacate_keeps (Kept : Signal Listener → Prop)
    (step : ∀ {signal} id, Kept signal → Kept (signal.disconnect id).2)
    (once : places.Nodup) (taken : ∀ place ∈ places, place ∈ signal.occupied)
    (kept : Kept signal) : Kept (places.foldl vacate signal) := by
  induction places generalizing signal with
  | nil => exact kept
  | cons place rest ih =>
      obtain ⟨fresh, once⟩ := List.nodup_cons.mp once
      obtain ⟨round, listener, there⟩ := mem_occupied.mp (taken place List.mem_cons_self)
      apply ih once
      · intro other member
        have apart : place ≠ other := fun same => fresh (same ▸ member)
        exact mem_occupied_vacate apart (taken other (List.mem_cons_of_mem place member))
      · rw [vacate_eq_disconnect there]
        exact step _ kept

/-- What is kept when one connection is removed is kept when all of them are. -/
theorem disconnectAll_keeps (Kept : Signal Listener → Prop)
    (step : ∀ {signal} id, Kept signal → Kept (signal.disconnect id).2) (kept : Kept signal) :
    Kept signal.disconnectAll :=
  foldl_vacate_keeps Kept step (List.nodup_range.filter _) (fun _ => id) kept

theorem mem_occupied_foldl_vacate {place : Nat}
    (taken : place ∈ (places.foldl vacate signal).occupied) :
    place ∉ places ∧ place ∈ signal.occupied := by
  induction places generalizing signal with
  | nil => exact ⟨List.not_mem_nil, taken⟩
  | cons first rest ih =>
      obtain ⟨elsewhere, before⟩ := ih taken
      rw [mem_occupied] at before
      by_cases here : first = place
      · subst here
        simp [vacate] at before
      · refine ⟨by simp [elsewhere, Ne.symm here], ?_⟩
        rw [mem_occupied]
        simpa [vacate, here] using before

/-- No place is taken when all connections were removed. -/
theorem listeners_disconnectAll (signal : Signal Listener) :
    signal.disconnectAll.listeners = [] := by
  rw [listeners, List.filterMap_eq_nil_iff]
  intro place listed
  obtain ⟨index, there⟩ := List.mem_iff_getElem?.mp listed
  cases empty : place.listener with
  | none => rfl
  | some listener =>
      have taken : index ∈ signal.disconnectAll.occupied :=
        mem_occupied.mpr ⟨place.round, listener, by rw [there, ← empty]⟩
      obtain ⟨elsewhere, before⟩ := mem_occupied_foldl_vacate taken
      exact absurd before elsewhere

theorem listener?_disconnectAll (signal : Signal Listener) (id : ConnectionId) :
    signal.disconnectAll.listener? id = none := by
  cases found : signal.disconnectAll.listener? id with
  | none => rfl
  | some listener =>
      have member := mem_listeners_of_listener? found
      rw [listeners_disconnectAll] at member
      cases member

end All

end LiveList.Signal
