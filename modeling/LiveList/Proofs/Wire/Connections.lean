import LiveList.Wire.Server

/-!
One connection among others. Whatever a server does for other clients, and whatever happens to the
lists of its service, all that comes to a connection of it are events; until too many of them wait.
-/

namespace LiveList

namespace Json

theorem lookup_cons_ite (name other : String) (value : Json) (fields : List (String × Json)) :
    ((name, value) :: fields).lookup other =
      if other = name then some value else fields.lookup other := by
  by_cases same : other = name
  · simp [same]
  · simp [List.lookup_cons, same, beq_false_of_ne same]

theorem lookup_insertField (name other : String) (value : Json) (fields : List (String × Json)) :
    (insertField name value fields).lookup other =
      if other = name then some value else fields.lookup other := by
  induction fields with
  | nil => exact lookup_cons_ite name other value []
  | cons field rest ih =>
      obtain ⟨first, old⟩ := field
      unfold insertField
      dsimp only
      split
      · rename_i same
        rw [lookup_cons_ite, lookup_cons_ite, ← same]
        split <;> rfl
      · rename_i different
        split
        · exact lookup_cons_ite name other value _
        · rw [lookup_cons_ite, lookup_cons_ite, ih]
          by_cases here : other = first
          · have apart : other ≠ name := fun same => different (same.symm.trans here)
            rw [if_pos here, if_neg apart]
            rw [if_pos here]
          · rw [if_neg here, if_neg here]

/-- An object has the fields that it was made from. -/
theorem field?_ofFields (fields : List (String × Json)) (name : String) :
    ((ofFields fields).field? name).isSome ↔ name ∈ fields.map (·.1) := by
  have each (done : List (String × Json)) :
      ((fields.foldl (fun done field => insertField field.1 field.2 done) done).lookup
        name).isSome ↔
        (done.lookup name).isSome ∨ name ∈ fields.map (·.1) := by
    induction fields generalizing done with
    | nil => simp
    | cons field rest ih =>
        rw [List.foldl_cons, ih, lookup_insertField, List.map_cons, List.mem_cons]
        by_cases here : name = field.1 <;> simp [here]
  refine (each []).trans ?_
  simp

end Json

def isAnswer (line : Json) : Bool := (line.field? "code").isSome

theorem isAnswer_response (callbackId : Option Nat) (response : Response) :
    isAnswer (response.line callbackId) = true := by
  simp [isAnswer, Response.line, Json.field?_ofFields]

theorem isAnswer_push (push : Push) : isAnswer push.line = false := by
  have none : ¬ (push.line.field? "code").isSome = true := by
    rw [Push.line, Json.field?_ofFields]
    simp
  simpa [isAnswer] using none

theorem isAnswer_handleLine (service : Service) (now session : Nat) (text : List Char) :
    isAnswer (service.handleLine now session text).2 = true := by
  unfold Service.handleLine
  split
  · exact isAnswer_response _ _
  · dsimp only
    split
    · exact isAnswer_response _ _
    · exact isAnswer_response _ _

/-- A server has a connection of a session; and if not too many events wait for it, something holds
of the connection. -/
structure LineServer.Has (config : ServerConfig) (index session : Nat) (holds : Connection → Prop)
    (server : LineServer) : Prop where
  config : server.config = config
  connection : ∃ connection, server.connections[index]? = some connection ∧
    connection.session = session ∧ (connection.overflowed = true ∨ holds connection)

structure Stable (holds : Connection → Prop) : Prop where
  told : ∀ connection push, holds connection →
    holds { connection with waiting := connection.waiting ++ [Push.line push] }
  write : ∀ connection, holds connection → holds connection.write

namespace LineServer

variable {config : ServerConfig} {index session other : Nat} {holds after : Connection → Prop}
  {server : LineServer}

theorem Has.modify (has : server.Has config index session holds) {change : Connection → Connection}
    (same : ∀ connection, (change connection).session = connection.session)
    (full : ∀ connection, (change connection).overflowed = connection.overflowed)
    (changes : ∀ connection, connection.session = session → holds connection →
      after (change connection)) :
    (server.modify index change).Has config index session after := by
  obtain ⟨configured, connection, place, mine, case⟩ := has
  refine ⟨configured, change connection, ?_, (same connection).trans mine, ?_⟩
  · simp [LineServer.modify, place]
  · exact case.imp (full connection).trans (changes connection mine)

theorem Has.modify_other (has : server.Has config index session holds) (apart : other ≠ index)
    (change : Connection → Connection) :
    (server.modify other change).Has config index session holds := by
  obtain ⟨configured, connection, place, mine, case⟩ := has
  refine ⟨configured, connection, ?_, mine, case⟩
  simp [LineServer.modify, apart, place]

theorem Has.takeOver (has : server.Has config index session holds) (stable : Stable holds)
    (service : Service) : (server.takeOver service).Has config index session holds := by
  obtain ⟨configured, connection⟩ := has
  refine ⟨configured, ?_⟩
  -- One event after the other waits, or is one too many.
  simp only [LineServer.takeOver]
  generalize server.connections = connections at connection ⊢
  induction service.sent generalizing connections with
  | nil => exact connection
  | cons push rest ih =>
      refine ih _ ?_
      obtain ⟨connection, place, mine, case⟩ := connection
      simp only [List.getElem?_map, place, Option.map_some, Option.some.injEq, exists_eq_left']
      split
      · unfold Connection.enqueue
        split
        · exact ⟨mine, case⟩
        · rename_i room
          split
          · exact ⟨mine, .inl rfl⟩
          · exact ⟨mine, .inr (stable.told connection push (case.resolve_left room))⟩
      · exact ⟨mine, case⟩

theorem Has.mono (has : server.Has config index session holds)
    (weaker : ∀ connection, holds connection → after connection) :
    server.Has config index session after := by
  obtain ⟨configured, connection, place, mine, case⟩ := has
  exact ⟨configured, connection, place, mine, case.imp_right (weaker connection)⟩

theorem Has.close_other (has : server.Has config index session holds) (stable : Stable holds)
    (apart : other ≠ index) : (server.close other).Has config index session holds := by
  unfold LineServer.close
  split
  · exact has
  · split
    · exact has
    · exact (has.modify_other apart _).takeOver stable _

theorem Has.close (has : server.Has config index session holds) (stable : Stable after)
    (already : ∀ connection, holds connection → connection.closed = true → after connection)
    (closes : ∀ connection, holds connection →
      after { connection.write with closed := true, state := .stopped }) :
    (server.close index).Has config index session after := by
  obtain ⟨configured, connection, place, mine, case⟩ := has
  unfold LineServer.close
  rw [place]
  dsimp only
  split
  · rename_i closed
    exact ⟨configured, connection, place, mine, case.imp_right (already connection · closed)⟩
  · refine Has.takeOver ?_ stable _
    have has : server.Has config index session holds := ⟨configured, connection, place, mine, case⟩
    exact has.modify (fun _ => rfl) (fun _ => rfl) fun connection _ => closes connection

/-- The end of a connection for which too many events wait is as good as any. -/
theorem Has.close_full (has : server.Has config index session holds) (stable : Stable holds)
    (full : (server.connections[index]?).any (·.overflowed) = true) :
    (server.close index).Has config index session holds := by
  obtain ⟨configured, connection, place, mine, _⟩ := has
  rw [place, Option.any_some] at full
  have has : server.Has config index session fun _ => False :=
    ⟨configured, connection, place, mine, .inl full⟩
  exact has.close stable (fun _ never _ => never.elim) fun _ never => never.elim

theorem Has.connect (has : server.Has config index session holds) (stable : Stable holds) :
    server.connect.2.Has config index session holds := by
  obtain ⟨configured, connection, place, mine, case⟩ :=
    has.takeOver stable server.service.openSession.2
  refine ⟨configured, connection, ?_, mine, case⟩
  exact List.getElem?_append_left (List.getElem?_eq_some_iff.mp place).1 ▸ place

theorem Has.flush (has : server.Has config index session holds) (stable : Stable holds) :
    server.flush.Has config index session holds := by
  have each (numbers : List Nat) {server : LineServer}
      (has : server.Has config index session holds) :
      (numbers.foldl (fun server index =>
        if (server.connections[index]?).any (·.overflowed) then server.close index
        else server.modify index Connection.write) server).Has config index session holds := by
    induction numbers generalizing server with
    | nil => exact has
    | cons number rest ih =>
        refine ih ?_
        dsimp only
        by_cases here : number = index
        · subst here
          split
          · exact has.close_full stable ‹_›
          · exact has.modify (fun _ => rfl) (fun _ => rfl) fun connection _ =>
              stable.write connection
        · split
          · exact has.close_other stable here
          · exact has.modify_other here _
  exact each _ has

theorem Has.handleFrame_other (has : server.Has config index session holds) (stable : Stable holds)
    (apart : other ≠ index) (now : Nat) (frame : Frame) :
    (server.handleFrame now other frame).Has config index session holds := by
  unfold LineServer.handleFrame
  split
  · exact has
  · split
    · exact has
    · split
      · exact has.close_other stable apart
      · exact has.modify_other apart _
      · dsimp only
        split
        · exact has
        · split
          · exact ((has.takeOver stable _).modify_other apart _).close_other stable apart
          · exact (has.takeOver stable _).modify_other apart _

theorem Has.receive_other (has : server.Has config index session holds) (stable : Stable holds)
    (apart : other ≠ index) (now : Nat) (bytes : List UInt8) :
    (server.receive now other bytes).Has config index session holds := by
  unfold LineServer.receive
  split
  · exact has
  · exact List.foldlRecOn _ _ (has.modify_other apart _) fun _ has frame _ =>
      has.handleFrame_other stable apart now frame

theorem Has.endInput_other (has : server.Has config index session holds) (stable : Stable holds)
    (apart : other ≠ index) (now : Nat) :
    (server.endInput now other).Has config index session holds := by
  unfold LineServer.endInput
  split
  · exact has
  · refine Has.close_other ?_ stable apart
    exact List.foldlRecOn _ _ has fun _ has frame _ => has.handleFrame_other stable apart now frame

end LineServer

end LiveList
