import LiveList.Proofs.View.Attendance

/-!
Who sits where at a signal. Each listener has at most one connection, and it is known which; so the
listeners of the signal can be counted from what is known of each.
-/

namespace LiveList

variable {Listener Ref : Type} [DecidableEq Listener]

namespace Signal

variable {signal : Signal Listener} {seat : Listener → Option ConnectionId}
  {listener : Listener} {id : ConnectionId}

structure Seats (signal : Signal Listener) (seat : Listener → Option ConnectionId) : Prop where
  sound : signal.Sound
  own : ∀ {listener id}, seat listener = some id → signal.listener? id = some listener
  count : ∀ listener, signal.listeners.count listener = if (seat listener).isSome then 1 else 0

theorem Seats.start : ({} : Signal Listener).Seats fun _ => none :=
  ⟨.start, (nomatch ·), fun _ => rfl⟩

theorem Seats.congr (seats : signal.Seats seat) {other : Listener → Option ConnectionId}
    (same : ∀ listener, other listener = seat listener) : signal.Seats other := by
  rw [show other = seat from funext same]
  exact seats

theorem Seats.named (seats : signal.Seats seat) {place : Option ConnectionId}
    (here : seat listener = place) :
    signal.Seats fun other => if other = listener then place else seat other := by
  refine seats.congr fun other => ?_
  split
  · rename_i same
    rw [same, here]
  · rfl

theorem Seats.connect (seats : signal.Seats seat) (apart : seat listener = none) :
    (signal.connect listener).2.Seats fun other =>
      if other = listener then some (signal.connect listener).1 else seat other := by
  refine ⟨seats.sound.connect listener, fun {other place} held => ?_, fun other => ?_⟩
  · rw [seats.sound.listener?_connect]
    split at held
    · rename_i same
      rw [if_pos (Option.some.inj held).symm, same]
    · have own := seats.own held
      split
      · rename_i same
        rw [same, seats.sound.listener?_fresh] at own
        cases own
      · exact own
  · rw [seats.sound.count_connect, seats.count]
    by_cases same : other = listener
    · simp [same, apart]
    · simp [same, Ne.symm same]

theorem Seats.disconnect (seats : signal.Seats seat) (held : seat listener = some id) :
    (signal.disconnect id).2.Seats fun other => if other = listener then none else seat other := by
  have own := seats.own held
  refine ⟨seats.sound.disconnect id, fun {other place} there => ?_, fun other => ?_⟩
  · split at there
    · cases there
    · rename_i apart
      have elsewhere : place ≠ id := by
        rintro rfl
        exact apart (Option.some.inj ((seats.own there).symm.trans own))
      rw [listener?_disconnect, if_neg elsewhere]
      exact seats.own there
  · have left := count_disconnect own other
    rw [seats.count] at left
    by_cases same : other = listener
    · simp [same, held] at left ⊢
      exact left
    · simpa [same, Ne.symm same] using left

/-- A listener is there exactly if it has a seat, and it is there once. -/
theorem Seats.mem_listeners (seats : signal.Seats seat) :
    listener ∈ signal.listeners ↔ (seat listener).isSome := by
  rw [← List.count_pos_iff, seats.count]
  cases (seat listener).isSome <;> simp

theorem Seats.nodup (seats : signal.Seats seat) : signal.listeners.Nodup := by
  rw [List.nodup_iff_count]
  intro listener
  rw [seats.count]
  split <;> omega

end Signal

namespace AttachedView

variable {signal : Signal Listener} {seat : Listener → Option ConnectionId} {mine : Listener}

theorem carryOut_seats (seats : signal.Seats seat) {connection : Option ConnectionId}
    (here : seat mine = connection) (effect : ViewEffect) :
    (carryOut mine (connection, signal) effect).2.Seats fun other =>
      if other = mine then (carryOut mine (connection, signal) effect).1 else seat other := by
  cases effect with
  | join =>
      cases connection with
      | none => exact seats.connect here
      | some id => exact seats.named here
  | leave =>
      cases connection with
      | none => exact seats.named here
      | some id => exact seats.disconnect here
  | activated on => exact seats.named here
  | told delta => exact seats.named here

theorem foldl_carryOut_seats (seats : signal.Seats seat) (effects : List ViewEffect)
    {connection : Option ConnectionId} (here : seat mine = connection) :
    (effects.foldl (carryOut mine) (connection, signal)).2.Seats fun other =>
      if other = mine then (effects.foldl (carryOut mine) (connection, signal)).1
      else seat other := by
  induction effects generalizing signal seat connection with
  | nil => exact seats.named here
  | cons effect rest ih =>
      refine (ih (carryOut_seats seats here effect) (if_pos rfl)).congr fun other => ?_
      split <;> rfl

/-- After an operation on a view its seat is the connection that it has then. -/
theorem settle_seats {attached : AttachedView Ref} (seats : signal.Seats seat)
    (here : seat mine = attached.connection) (step : ViewStep Ref) :
    (attached.settle mine signal step).2.Seats fun other =>
      if other = mine then (attached.settle mine signal step).1.connection else seat other :=
  foldl_carryOut_seats seats step.effects here

omit [DecidableEq Listener] in
theorem foldl_carryOut_turn {before after : ListView Ref} {effects : List ViewEffect}
    (turn : ListView.Turn before after effects) {places : Option ConnectionId × Signal Listener}
    (fits : places.1.isSome = before.isActive) :
    (effects.foldl (carryOut mine) places).1.isSome = after.isActive := by
  obtain ⟨connection, signal⟩ := places
  cases turn with
  | still _ same told =>
      rw [foldl_carryOut_told told, fits, ListView.isActive, ListView.isActive]
      grind
  | on inactive there =>
      cases connection with
      | none => simp [carryOut, ListView.isActive, there]
      | some id => simp [ListView.isActive, inactive] at fits
  | off there inactive =>
      cases connection with
      | none => simp [ListView.isActive, there] at fits
      | some id => simp [carryOut, ListView.isActive, inactive]

omit [DecidableEq Listener] in
/-- A view that is connected exactly while it is active stays so. -/
theorem settle_fits {attached : AttachedView Ref} {handler : Handler Ref} {source : List Ref}
    {permit : ListView.Permit Ref} {step : ViewStep Ref}
    (motions : ListView.Motions handler source permit attached.view step.view step.effects)
    (fits : attached.connection.isSome = attached.view.isActive) :
    (attached.settle mine signal step).1.connection.isSome = step.view.isActive := by
  have carried {before after : ListView Ref} {effects : List ViewEffect}
      (motions : ListView.Motions handler source permit before after effects)
      {places : Option ConnectionId × Signal Listener} (fits : places.1.isSome = before.isActive) :
      (effects.foldl (carryOut mine) places).1.isSome = after.isActive := by
    induction motions generalizing places with
    | rest view => exact fits
    | next motion _ ih =>
        rw [List.foldl_append]
        exact ih (foldl_carryOut_turn motion.turn fits)
  exact carried motions fits

end AttachedView

end LiveList
