import LiveList.Proofs.Wire.Connections
import LiveList.Proofs.Wire.Framing

/-!
Conversations. Whatever other clients and the lists of the service do meanwhile, and in whatever
pieces its bytes arrive, a client is answered line by line, in order, with what the service answers
at the moment of each line; unless too many events wait for it, or one of its lines is cut.
-/

namespace LiveList

structure Moment where
  service : Service
  now : Nat
  frame : Frame

/-- The line that a frame is answered with. A line of blanks is not answered. -/
def Moment.answer (session : Nat) (moment : Moment) : Option Json :=
  match moment.frame with
  | .broken => none
  | .tooLong => some tooLongLine
  | .line text =>
      let text := Text.trim text.toList
      if text.isEmpty then none
      else some (moment.service.handleLine moment.now session text).2

/-- To be too long is a fault of the request, which is not told from others by a number. -/
example : (tooLongLine.field? "code").bind Json.natural? = some 400 ∧
    (tooLongLine.field? "callback_id").isNone := by decide +kernel

structure Connection.Stands (state : LineState) (closed : Bool) (answers : List Json)
    (connection : Connection) : Prop where
  state : connection.state = state
  closed : connection.closed = closed
  events : ∀ line ∈ connection.waiting, isAnswer line = false
  answers : connection.written.filter isAnswer = answers

namespace Connection.Stands

variable {state : LineState} {closed : Bool} {answers : List Json} {connection : Connection}

theorem stable : Stable (Stands state closed answers) where
  told connection push stands := by
    refine ⟨stands.state, stands.closed, fun line member => ?_, stands.answers⟩
    rcases List.mem_append.mp member with old | new
    · exact stands.events line old
    · rw [List.mem_singleton.mp new]
      exact isAnswer_push push
  write connection stands := by
    refine ⟨stands.state, stands.closed, ?_, ?_⟩
    · rintro line ⟨⟩
    · have none : connection.waiting.filter isAnswer = [] :=
        List.filter_eq_nil_iff.mpr fun line member => by simp [stands.events line member]
      rw [Connection.write, List.filter_append, none, List.append_nil, stands.answers]

theorem respond (stands : connection.Stands state closed answers) {line : Json}
    (answer : isAnswer line = true) :
    (connection.respond line).Stands state closed (answers ++ [line]) := by
  have written := stable.write connection stands
  refine ⟨stands.state, stands.closed, ?_, ?_⟩
  · rintro other ⟨⟩
  · have first : (connection.written ++ connection.waiting).filter isAnswer = answers :=
      written.answers
    rw [Connection.respond, List.filter_append, first, List.filter_singleton, answer, cond_true]

end Connection.Stands

namespace LineServer

variable {config : ServerConfig} {index session now : Nat} {holds : Connection → Prop}
  {server : LineServer} {state : LineState} {lines : List Json}

theorem Has.full_or (has : server.Has config index session holds) :
    server.Has config index session (fun _ => False) ∨
      server.config = config ∧ ∃ connection, server.connections[index]? = some connection ∧
        connection.session = session ∧ holds connection := by
  obtain ⟨configured, connection, place, mine, full | holds⟩ := has
  · exact .inl ⟨configured, connection, place, mine, .inl full⟩
  · exact .inr ⟨configured, connection, place, mine, holds⟩

theorem stable_false : Stable fun _ => False := ⟨fun _ _ never => never, fun _ never => never⟩

theorem Has.handleFrame_full (full : server.Has config index session fun _ => False)
    (frame : Frame) :
    (server.handleFrame now index frame).Has config index session fun _ => False := by
  have changed {server : LineServer} (full : server.Has config index session fun _ => False)
      (line : Json) :
      (server.modify index (Connection.respond line)).Has config index session fun _ => False :=
    full.modify (fun _ => rfl) (fun _ => rfl) fun _ _ never => never
  unfold LineServer.handleFrame
  split
  · exact full
  · split
    · exact full
    · split
      · exact full.close stable_false (fun _ never _ => never) fun _ never => never
      · exact changed full _
      · dsimp only
        split
        · exact full
        · split
          · exact (changed (full.takeOver stable_false _) _).close_full stable_false ‹_›
          · exact changed (full.takeOver stable_false _) _

theorem Has.close_stands {closed : Bool}
    (has : server.Has config index session (Connection.Stands state closed lines))
    (done : closed = true → state = .stopped) :
    (server.close index).Has config index session (Connection.Stands .stopped true lines) := by
  refine has.close Connection.Stands.stable (fun connection stands already => ?_)
    fun connection stands => ?_
  · have ended := done (stands.closed.symm.trans already)
    exact ⟨stands.state.trans ended, already, stands.events, stands.answers⟩
  · have written := Connection.Stands.stable.write connection stands
    exact ⟨rfl, rfl, written.events, written.answers⟩

theorem Has.handleFrame_broken
    (has : server.Has config index session (Connection.Stands state false lines)) (now : Nat) :
    (server.handleFrame now index .broken).Has config index session
      (Connection.Stands .stopped true lines) := by
  rcases has.full_or with full | ⟨configured, connection, place, mine, stands⟩
  · exact (full.handleFrame_full .broken).mono fun _ => False.elim
  · unfold LineServer.handleFrame
    simp only [place, stands.closed, Bool.false_eq_true, ↓reduceIte]
    refine has.close_stands ?_
    rintro ⟨⟩

theorem Has.respond (has : server.Has config index session (Connection.Stands state false lines))
    {line : Json} (answer : isAnswer line = true) :
    (server.modify index (Connection.respond line)).Has config index session
      (Connection.Stands state false (lines ++ [line])) :=
  has.modify (fun _ => rfl) (fun _ => rfl) fun _ _ stands => stands.respond answer

/-- A frame is answered by the service as it is at that moment. -/
theorem Has.handleFrame
    (has : server.Has config index session (Connection.Stands state false lines))
    (now : Nat) {frame : Frame} (read : frame ≠ .broken) :
    (server.handleFrame now index frame).Has config index session
      (Connection.Stands state false
        (lines ++ (Moment.answer session ⟨server.service, now, frame⟩).toList)) := by
  rcases has.full_or with full | ⟨configured, connection, place, rfl, stands⟩
  · exact (full.handleFrame_full frame).mono fun _ => False.elim
  · unfold LineServer.handleFrame Moment.answer
    simp only [place, stands.closed, Bool.false_eq_true, ↓reduceIte]
    cases frame with
    | broken => exact absurd rfl read
    | tooLong => exact has.respond (isAnswer_response _ _)
    | line text =>
        dsimp only
        split
        · simpa using has
        · have answered := (has.takeOver Connection.Stands.stable
            (server.service.handleLine now connection.session (Text.trim text.toList)).1).respond
              (isAnswer_handleLine server.service now connection.session (Text.trim text.toList))
          split
          · exact answered.close_full Connection.Stands.stable ‹_›
          · exact answered

def moments (now index : Nat) : LineServer → List Frame → List Moment
  | _, [] => []
  | server, frame :: rest =>
      ⟨server.service, now, frame⟩ :: moments now index (server.handleFrame now index frame) rest

theorem moments_frames (server : LineServer) (frames : List Frame) :
    (moments now index server frames).map (·.frame) = frames := by
  induction frames generalizing server with
  | nil => rfl
  | cons frame rest ih => rw [moments, List.map_cons, ih]

theorem moments_append (server : LineServer) (first later : List Frame) :
    moments now index server (first ++ later) = moments now index server first ++
      moments now index (first.foldl (LineServer.handleFrame now index) server) later := by
  induction first generalizing server with
  | nil => rfl
  | cons frame rest ih =>
      rw [List.cons_append, moments, ih, moments, List.cons_append, List.foldl_cons]

theorem Has.handleFrames
    (has : server.Has config index session (Connection.Stands state false lines))
    (now : Nat) {frames : List Frame} (read : .broken ∉ frames) :
    (frames.foldl (LineServer.handleFrame now index) server).Has config index session
      (Connection.Stands state false
        (lines ++ (moments now index server frames).filterMap (Moment.answer session))) := by
  induction frames generalizing server lines with
  | nil => simpa [moments] using has
  | cons frame rest ih =>
      rw [List.mem_cons, not_or] at read
      have later := ih (has.handleFrame now (Ne.symm read.1)) read.2
      rw [List.append_assoc] at later
      have both : (Moment.answer session ⟨server.service, now, frame⟩).toList ++
          (moments now index (server.handleFrame now index frame) rest).filterMap
            (Moment.answer session) =
          (moments now index server (frame :: rest)).filterMap (Moment.answer session) := by
        rw [moments]
        cases answer : Moment.answer session ⟨server.service, now, frame⟩ <;> simp [answer]
      rw [both] at later
      exact later

/-- What was found in some bytes is handled frame by frame, and broken bytes come last. -/
theorem Has.handleFound
    (has : server.Has config index session (Connection.Stands state false lines)) (now : Nat)
    {frames : List Frame} (found : state ≠ .stopped ∧ .broken ∉ frames ∨
      state = .stopped ∧ ∃ clean, .broken ∉ clean ∧ frames = clean ++ [.broken]) :
    (frames.foldl (LineServer.handleFrame now index) server).Has config index session
      (Connection.Stands state (state = .stopped)
        (lines ++ (moments now index server frames).filterMap (Moment.answer session))) := by
  rcases found with ⟨running, clean⟩ | ⟨rfl, clean, read, rfl⟩
  · have handled := has.handleFrames now clean
    simpa [running] using handled
  · have handled := (has.handleFrames now read).handleFrame_broken now
    have last (server : LineServer) :
        (moments now index server [.broken]).filterMap (Moment.answer session) = [] := rfl
    rw [List.foldl_concat, moments_append, List.filterMap_append, last, List.append_nil]
    simpa using handled

end LineServer

inductive ServerEvent where
  | connect
  | receive (now index : Nat) (bytes : List UInt8)
  | endInput (now index : Nat)
  | flush
  | change (change : Service → Service)

namespace ServerEvent

def bytes (index : Nat) : ServerEvent → List UInt8
  | receive _ other bytes => if other = index then bytes else []
  | _ => []

def ends (index : Nat) : ServerEvent → Bool
  | endInput _ other => other == index
  | _ => false

end ServerEvent

namespace LineServer

def meet (server : LineServer) : ServerEvent → LineServer
  | .connect => server.connect.2
  | .receive now index bytes => server.receive now index bytes
  | .endInput now index => server.endInput now index
  | .flush => server.flush
  | .change change => server.takeOver (change server.service)

def live (server : LineServer) (events : List ServerEvent) : LineServer :=
  events.foldl LineServer.meet server

def handles (index : Nat) (server : LineServer) : ServerEvent → List Moment
  | .receive now other bytes =>
      if other = index then
        match server.connections[index]? with
        | some connection =>
            let (state, found) := connection.state.feed server.config.maxLineLength bytes
            moments now index
              (server.modify index fun connection => { connection with state }) found
        | none => []
      else []
  | .endInput now other =>
      if other = index then
        match server.connections[index]? with
        | some connection => moments now index server connection.state.finish.toList
        | none => []
      else []
  | _ => []

def handled (index : Nat) (server : LineServer) : List ServerEvent → List Moment
  | [] => []
  | event :: rest => server.handles index event ++ handled index (server.meet event) rest

end LineServer

/-- A connection that was sent a stream, and has answered the frames in it at these moments. -/
def Connection.Follows (limit session : Nat) (stream : List UInt8) (moments : List Moment)
    (connection : Connection) : Prop :=
  let fed := LineState.feed limit (.start limit) stream
  connection.Stands fed.1 (fed.1 = .stopped) (moments.filterMap (Moment.answer session)) ∧
    moments.map (·.frame) = fed.2

namespace LineServer

variable {config : ServerConfig} {index session now other : Nat} {server : LineServer}
  {stream : List UInt8} {met : List Moment}

theorem follows_stable (limit : Nat) :
    Stable (Connection.Follows limit session stream met) where
  told connection push follows :=
    ⟨Connection.Stands.stable.told connection push follows.1, follows.2⟩
  write connection follows := ⟨Connection.Stands.stable.write connection follows.1, follows.2⟩

/-- Bytes that are received are read on from where the stream ended. -/
theorem Has.feed {limit : Nat} (has : server.Has config index session
      (Connection.Follows limit session stream met))
    (frames : met.map (·.frame) = (LineState.feed limit (.start limit) stream).2)
    (now : Nat) (bytes : List UInt8) :
    let next := LineState.feed limit (LineState.feed limit (.start limit) stream).1 bytes
    let read := server.modify index fun connection => { connection with state := next.1 }
    (next.2.foldl (LineServer.handleFrame now index) read).Has config index session
      (Connection.Follows limit session (stream ++ bytes)
        (met ++ moments now index read next.2)) := by
  intro next read
  have whole : LineState.feed limit (.start limit) (stream ++ bytes) =
      (next.1, met.map (·.frame) ++ next.2) := by
    rw [LineState.feed_append, frames]
  have reading : read.Has config index session (Connection.Stands next.1
      ((LineState.feed limit (.start limit) stream).1 = .stopped)
      (met.filterMap (Moment.answer session))) :=
    has.modify (fun _ => rfl) (fun _ => rfl) fun connection _ follows =>
      ⟨rfl, follows.1.closed, follows.1.events, follows.1.answers⟩
  have handled : (next.2.foldl (LineServer.handleFrame now index) read).Has config index session
      (Connection.Stands next.1 (next.1 = .stopped) (met.filterMap (Moment.answer session) ++
        (moments now index read next.2).filterMap (Moment.answer session))) := by
    by_cases stopped : (LineState.feed limit (.start limit) stream).1 = .stopped
    · -- After broken bytes nothing more is found, and nothing is answered.
      have nothing : next = (.stopped, []) := by
        simp only [next, stopped, LineState.feed_stopped]
      simpa [nothing, stopped, moments] using reading
    · simp only [stopped, decide_false] at reading
      exact reading.handleFound now (LineState.feed_cases stopped bytes)
  refine handled.mono fun connection stands => ?_
  unfold Connection.Follows
  rw [whole, List.filterMap_append, List.map_append, moments_frames]
  exact ⟨stands, rfl⟩

theorem Has.receive
    (has : server.Has config index session
      (Connection.Follows config.maxLineLength session stream met))
    (now : Nat) (bytes : List UInt8) :
    (server.receive now index bytes).Has config index session
      (Connection.Follows config.maxLineLength session (stream ++ bytes)
        (met ++ server.handles index (.receive now index bytes))) := by
  rcases has.full_or with full | ⟨rfl, connection, place, mine, stands, frames⟩
  · refine Has.mono ?_ fun _ => False.elim
    unfold LineServer.receive
    split
    · exact full
    · refine List.foldlRecOn _ _ ?_ fun _ full frame _ => full.handleFrame_full frame
      exact full.modify (fun _ => rfl) (fun _ => rfl) fun _ _ never => never
  · have fed := has.feed frames now bytes
    dsimp only at fed
    rw [← stands.state] at fed
    simpa [LineServer.receive, LineServer.handles, place] using fed

/-- What is left in the line is handled, and then the connection is closed. -/
theorem Has.close_finish
    (has : server.Has config index session (Connection.Stands state (state = .stopped) lines))
    (now : Nat) :
    ((state.finish.toList.foldl (LineServer.handleFrame now index) server).close index).Has config
      index session (Connection.Stands .stopped true (lines ++
        (moments now index server state.finish.toList).filterMap (Moment.answer session))) := by
  cases left : state.finish with
  | none =>
      rw [Option.toList_none, List.foldl_nil, moments, List.filterMap_nil, List.append_nil]
      exact has.close_stands of_decide_eq_true
  | some frame =>
      have running : state ≠ .stopped := by
        rintro rfl
        cases left
      simp only [running, decide_false] at has
      rw [Option.toList_some, List.foldl_cons, List.foldl_nil, moments, moments]
      by_cases broken : frame = .broken
      · subst broken
        have silent :
            [(⟨server.service, now, .broken⟩ : Moment)].filterMap (Moment.answer session) = [] :=
          rfl
        rw [silent, List.append_nil]
        exact (has.handleFrame_broken now).close_stands fun _ => rfl
      · have answered := (has.handleFrame now broken).close_stands (by rintro ⟨⟩)
        rw [List.filterMap_cons]
        cases answer : Moment.answer session ⟨server.service, now, frame⟩ <;>
          simpa [answer] using answered

/-- The end of the stream is handled as well, and then the connection is closed. -/
theorem Has.endInput
    (has : server.Has config index session
      (Connection.Follows config.maxLineLength session stream met)) (now : Nat) :
    (server.endInput now index).Has config index session fun connection =>
      connection.Stands .stopped true
          ((met ++ server.handles index (.endInput now index)).filterMap (Moment.answer session)) ∧
        (met ++ server.handles index (.endInput now index)).map (·.frame) =
          LineState.readAll config.maxLineLength stream := by
  rcases has.full_or with full | ⟨rfl, connection, place, mine, stands, frames⟩
  · refine Has.mono ?_ fun _ => False.elim
    unfold LineServer.endInput
    split
    · exact full
    · refine Has.close ?_ stable_false (fun _ never _ => never) fun _ never => never
      exact List.foldlRecOn _ _ full fun _ full frame _ => full.handleFrame_full frame
  · have ended := (has.mono fun _ follows => follows.1).close_finish now
    rw [← stands.state] at ended
    simp only [LineServer.endInput, LineServer.handles, place, ↓reduceIte, List.filterMap_append,
      List.map_append, moments_frames, frames]
    refine ended.mono fun _ closed => ⟨closed, ?_⟩
    rw [stands.state]
    rfl

/-- What happens to a server happens to a connection only as far as its own bytes are received. -/
theorem Has.meet
    (has : server.Has config index session
      (Connection.Follows config.maxLineLength session stream met))
    (event : ServerEvent) (stays : event.ends index = false) :
    (server.meet event).Has config index session
      (Connection.Follows config.maxLineLength session (stream ++ event.bytes index)
        (met ++ server.handles index event)) := by
  have stable : Stable (Connection.Follows config.maxLineLength session stream met) :=
    follows_stable config.maxLineLength
  cases event with
  | connect =>
      simpa [LineServer.meet, ServerEvent.bytes, LineServer.handles] using has.connect stable
  | flush => simpa [LineServer.meet, ServerEvent.bytes, LineServer.handles] using has.flush stable
  | change change =>
      simpa [LineServer.meet, ServerEvent.bytes, LineServer.handles] using has.takeOver stable _
  | receive now other bytes =>
      by_cases here : other = index
      · subst here
        simpa [LineServer.meet, ServerEvent.bytes] using has.receive now bytes
      · simpa [LineServer.meet, ServerEvent.bytes, LineServer.handles, here] using
          has.receive_other stable here now bytes
  | endInput now other =>
      have elsewhere : other ≠ index := by simpa [ServerEvent.ends] using stays
      simpa [LineServer.meet, ServerEvent.bytes, LineServer.handles, elsewhere] using
        has.endInput_other stable elsewhere now

theorem Has.live
    (has : server.Has config index session
      (Connection.Follows config.maxLineLength session stream met))
    (events : List ServerEvent) (stays : ∀ event ∈ events, event.ends index = false) :
    (server.live events).Has config index session
      (Connection.Follows config.maxLineLength session
        (stream ++ events.flatMap (ServerEvent.bytes index))
        (met ++ server.handled index events)) := by
  induction events generalizing server stream met with
  | nil => simpa [LineServer.live, LineServer.handled] using has
  | cons event rest ih =>
      have later := ih (has.meet event (stays event List.mem_cons_self))
        fun other member => stays other (List.mem_cons_of_mem event member)
      simpa [LineServer.live, LineServer.handled] using later

theorem handled_append (server : LineServer) (first later : List ServerEvent) :
    server.handled index (first ++ later) =
      server.handled index first ++ (server.live first).handled index later := by
  induction first generalizing server with
  | nil => rfl
  | cons event rest ih =>
      rw [List.cons_append, LineServer.handled, ih, LineServer.handled, List.append_assoc]
      rfl

/-- A client that has just come has sent nothing. -/
theorem connect_follows (server : LineServer) :
    server.connect.2.Has server.config server.connect.1 server.service.openSession.1
      (Connection.Follows server.config.maxLineLength server.service.openSession.1 [] []) := by
  let connection : Connection :=
    { session := server.service.openSession.1, state := .start server.config.maxLineLength }
  have quiet : ∀ line ∈ connection.waiting, isAnswer line = false := by
    rintro line ⟨⟩
  exact ⟨rfl, connection, List.getElem?_concat_length, rfl, .inr ⟨⟨rfl, rfl, quiet, rfl⟩, rfl⟩⟩

end LineServer

def LineServer.sample : LineServer := { config := { maxLineLength := 3 } }

def sampleTalk (text : List Char) : List ServerEvent :=
  [.connect, .receive 0 0 ((octets text).take 5), .flush, .receive 0 1 (octets ['x', '\n']),
    .receive 1 0 ((octets text).drop 5)]

theorem sampleTalk_bytes (text : List Char) :
    (sampleTalk text).flatMap (ServerEvent.bytes 0) = octets text := by
  simp [sampleTalk, ServerEvent.bytes]

theorem sampleTalk_stays (text : List Char) : ∀ event ∈ sampleTalk text, event.ends 0 = false := by
  simp [sampleTalk, ServerEvent.ends]

end LiveList
