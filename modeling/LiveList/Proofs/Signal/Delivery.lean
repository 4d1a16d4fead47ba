import LiveList.Proofs.Log
import LiveList.Proofs.Signal
import Mathlib.Data.List.Induction
import Mathlib.Data.List.Nodup

/-!
What listeners hear, and when, of a signal whose connections they change while they are called. All
that happens is written down: the log tells which connections there are, and every answer and every
call agrees with it.
-/

namespace LiveList.Signal

variable {Listener Value : Type}

inductive Request (Listener : Type) where
  | connect (listener : Listener)
  /-- Connects a listener until its guard is dropped. -/
  | connectGuarded (listener : Listener)
  /-- Drops one of the guards that are held, by its place among them. -/
  | dropGuard (place : Nat)
  | disconnect (id : ConnectionId)
  | disconnectAll
  | count

inductive Happening (Listener Value : Type) where
  | connected (id : ConnectionId) (listener : Listener)
  | disconnected (id : ConnectionId) (wasThere : Bool)
  | dropped (id : ConnectionId)
  | cleared
  | counted (count : Nat)
  | emitted (value : Value)
  | called (listener : Listener) (value : Value)
  | finished

structure Traffic (Listener Value : Type) where
  signal : Signal Listener := {}
  guards : List ConnectionId := []
  log : List (Happening Listener Value) := []

/-- What the listeners ask when they are called with a value. They may look at everything. -/
abbrev Conduct (Listener Value : Type) : Type :=
  Listener → Value → Traffic Listener Value → List (Request Listener)

namespace Traffic

def note (traffic : Traffic Listener Value) (happening : Happening Listener Value) :
    Traffic Listener Value :=
  { traffic with log := traffic.log ++ [happening] }

def request (traffic : Traffic Listener Value) : Request Listener → Traffic Listener Value
  | .connect listener =>
      let (id, signal) := traffic.signal.connect listener
      { traffic with signal }.note (.connected id listener)
  | .connectGuarded listener =>
      let (id, signal) := traffic.signal.connect listener
      { traffic with signal, guards := traffic.guards ++ [id] }.note (.connected id listener)
  | .dropGuard place =>
      match traffic.guards[place]? with
      | some id =>
          { traffic with
            signal := (traffic.signal.disconnect id).2
            guards := traffic.guards.eraseIdx place }.note (.dropped id)
      | none => traffic
  | .disconnect id =>
      let (wasThere, signal) := traffic.signal.disconnect id
      { traffic with signal }.note (.disconnected id wasThere)
  | .disconnectAll =>
      { traffic with signal := traffic.signal.disconnectAll }.note .cleared
  | .count => traffic.note (.counted traffic.signal.count)

def call (conduct : Conduct Listener Value) (value : Value) (listener : Listener)
    (traffic : Traffic Listener Value) : Traffic Listener Value :=
  let traffic := traffic.note (.called listener value)
  (conduct listener value traffic).foldl request traffic

def emit (conduct : Conduct Listener Value) (traffic : Traffic Listener Value) (value : Value) :
    Traffic Listener Value :=
  (traffic.signal.emit (call conduct value) (traffic.note (.emitted value))).note .finished

end Traffic

inductive Act (Listener Value : Type) where
  | ask (request : Request Listener)
  | emit (value : Value)

def Traffic.act (conduct : Conduct Listener Value) (traffic : Traffic Listener Value) :
    Act Listener Value → Traffic Listener Value
  | .ask request => traffic.request request
  | .emit value => traffic.emit conduct value

def Traffic.after (conduct : Conduct Listener Value) (acts : List (Act Listener Value)) :
    Traffic Listener Value :=
  acts.foldl (act conduct) {}

section Reading

def Happening.keep (connections : List (ConnectionId × Listener)) :
    Happening Listener Value → List (ConnectionId × Listener)
  | .connected id listener => connections ++ [(id, listener)]
  | .disconnected id _ | .dropped id => connections.filter (·.1 ≠ id)
  | .cleared => []
  | .counted _ | .emitted _ | .called _ _ | .finished => connections

def present (log : List (Happening Listener Value)) : List (ConnectionId × Listener) :=
  log.foldl Happening.keep []

/-- Whether a happening agrees with what happened before: a new connection has an id that none ever
had, removing a connection finds it just if it is present, and those present are counted. -/
def Happening.Fits (past : List (Happening Listener Value)) : Happening Listener Value → Prop
  | .connected id _ => ∀ listener, .connected id listener ∉ past
  | .disconnected id wasThere => wasThere = true ↔ ∃ listener, (id, listener) ∈ present past
  | .counted count => count = (present past).length
  | .dropped _ | .cleared | .emitted _ | .called _ _ | .finished => True

def Happening.call? : Happening Listener Value → Option (Listener × Value)
  | .called listener value => some (listener, value)
  | _ => none

def calls (log : List (Happening Listener Value)) : List (Listener × Value) :=
  log.filterMap Happening.call?

def Happening.isLimit : Happening Listener Value → Bool
  | .emitted _ | .finished => true
  | _ => false

theorem present_concat (log : List (Happening Listener Value))
    (happening : Happening Listener Value) :
    present (log ++ [happening]) = happening.keep (present log) := by
  rw [present, List.foldl_append]
  rfl

theorem calls_append (log since : List (Happening Listener Value)) :
    calls (log ++ since) = calls log ++ calls since :=
  List.filterMap_append

end Reading

structure Faithful (traffic : Traffic Listener Value) : Prop where
  sound : traffic.signal.Sound
  held : ∀ id listener,
    traffic.signal.listener? id = some listener ↔ (id, listener) ∈ present traffic.log
  once : ((present traffic.log).map (·.1)).Nodup
  listed : traffic.signal.listeners.Perm ((present traffic.log).map (·.2))
  given : ∀ id listener, .connected id listener ∈ traffic.log → traffic.signal.Given id
  fits : ∀ past happening rest,
    traffic.log = past ++ happening :: rest → happening.Fits past

namespace Faithful

variable {traffic : Traffic Listener Value} {signal : Signal Listener}
  {guards : List ConnectionId} {log : List (Happening Listener Value)}
  {happening : Happening Listener Value}

theorem start : Faithful ({} : Traffic Listener Value) := by
  refine ⟨.start, ?_, List.nodup_nil, .nil, by simp, by simp⟩
  intro id listener
  simp [listener?, present]

theorem count (faithful : Faithful traffic) :
    traffic.signal.count = (present traffic.log).length := by
  rw [Signal.count, faithful.listed.length_eq, List.length_map]

theorem concat (faithful : Faithful traffic) (fits : happening.Fits traffic.log)
    (sound : signal.Sound)
    (held : ∀ id listener, signal.listener? id = some listener ↔
      (id, listener) ∈ happening.keep (present traffic.log))
    (once : ((happening.keep (present traffic.log)).map (·.1)).Nodup)
    (listed : signal.listeners.Perm ((happening.keep (present traffic.log)).map (·.2)))
    (given : ∀ id, traffic.signal.Given id → signal.Given id)
    (own : ∀ id listener, .connected id listener = happening → signal.Given id) :
    Faithful { signal, guards, log := traffic.log ++ [happening] } := by
  rw [← present_concat] at held once listed
  refine ⟨sound, held, once, listed, ?_, ?_⟩
  · intro id listener member
    rcases List.mem_append.mp member with old | new
    · exact given id (faithful.given id listener old)
    · exact own id listener (List.mem_singleton.mp new)
  · intro past other rest split
    rcases Log.of_concat split with ⟨rfl, rfl, _⟩ | ⟨since, earlier, _⟩
    · exact fits
    · exact faithful.fits past other since earlier

/-- What leaves the connections alone is only written down. -/
theorem note (faithful : Faithful traffic) (fits : happening.Fits traffic.log)
    (still : happening.keep (present traffic.log) = present traffic.log)
    (quiet : ∀ id listener, .connected id listener ≠ happening) :
    Faithful (traffic.note happening) := by
  apply faithful.concat fits faithful.sound
  · rw [still]
    exact faithful.held
  · rw [still]
    exact faithful.once
  · rw [still]
    exact faithful.listed
  · exact fun _ => id
  · exact fun id listener same => absurd same (quiet id listener)

theorem connect (faithful : Faithful traffic) (listener : Listener) :
    Faithful
      { signal := (traffic.signal.connect listener).2
        guards
        log := traffic.log ++ [.connected (traffic.signal.connect listener).1 listener] } := by
  have sound := faithful.sound
  have unused := sound.not_given listener
  have absent : ∀ other, ((traffic.signal.connect listener).1, other) ∉ present traffic.log := by
    intro other member
    exact unused (given_of_listener? ((faithful.held _ other).mpr member))
  apply faithful.concat
  · exact fun other member => unused (faithful.given _ other member)
  · exact sound.connect listener
  · intro id other
    rw [sound.listener?_connect, Happening.keep, List.mem_append, List.mem_singleton, Prod.mk.injEq]
    split
    · rename_i same
      subst same
      simp [absent, eq_comm]
    · rename_i apart
      simp [apart, faithful.held]
  · rw [Happening.keep, List.map_append, List.map_singleton, ← List.concat_eq_append,
      List.nodup_concat]
    exact ⟨by simpa using absent, faithful.once⟩
  · obtain ⟨before, after, old, new⟩ := sound.connect_listeners listener
    rw [new, Happening.keep, List.map_append, List.map_singleton]
    have listed := faithful.listed
    rw [old] at listed
    exact List.perm_middle.trans ((listed.cons listener).trans (List.perm_append_singleton _ _).symm)
  · exact fun id given => sound.given_connect given listener
  · intro id other same
    obtain ⟨rfl, rfl⟩ := Happening.connected.inj same
    have found : (traffic.signal.connect other).2.listener? (traffic.signal.connect other).1 =
        some other := by
      rw [sound.listener?_connect, if_pos rfl]
    exact given_of_listener? found

theorem present_perm (faithful : Faithful traffic) {id : ConnectionId} {listener : Listener}
    (member : (id, listener) ∈ present traffic.log) :
    (present traffic.log).Perm ((id, listener) :: (present traffic.log).filter (·.1 ≠ id)) := by
  obtain ⟨before, after, parts⟩ := List.append_of_mem member
  have once := faithful.once
  rw [parts, List.map_append, List.map_cons, List.perm_middle.nodup_iff, ← List.map_append] at once
  have others : (before ++ after).filter (·.1 ≠ id) = before ++ after := by
    apply List.filter_eq_self.mpr
    intro other listed
    have apart : other.1 ≠ id := by
      intro same
      exact (List.nodup_cons.mp once).1 (List.mem_map.mpr ⟨other, listed, same⟩)
    simpa using apart
  rw [List.filter_append] at others
  rw [parts, List.filter_append, List.filter_cons_of_neg (by simp), others]
  exact List.perm_middle

theorem disconnect (faithful : Faithful traffic) (id : ConnectionId)
    (fits : happening.Fits traffic.log)
    (removes : happening.keep (present traffic.log) = (present traffic.log).filter (·.1 ≠ id))
    (quiet : ∀ id listener, .connected id listener ≠ happening) :
    Faithful
      { signal := (traffic.signal.disconnect id).2
        guards
        log := traffic.log ++ [happening] } := by
  apply faithful.concat fits (faithful.sound.disconnect id)
  · intro other listener
    rw [listener?_disconnect, removes, List.mem_filter]
    by_cases same : other = id
    · simp [same]
    · simp [same, faithful.held]
  · rw [removes]
    exact (List.filter_sublist.map _).nodup faithful.once
  · rw [removes]
    have listed := faithful.listed
    cases found : traffic.signal.listener? id with
    | none =>
        have all : (present traffic.log).filter (·.1 ≠ id) = present traffic.log := by
          apply List.filter_eq_self.mpr
          rintro ⟨other, listener⟩ member
          have apart : other ≠ id := by
            rintro rfl
            have there := (faithful.held other listener).mpr member
            rw [found] at there
            cases there
          simpa using apart
        rwa [disconnect_absent found, all]
    | some listener =>
        obtain ⟨before, after, old, new⟩ := disconnect_listeners found
        have rest := (faithful.present_perm ((faithful.held id listener).mp found)).map (·.2)
        rw [old] at listed
        rw [new]
        exact (List.perm_middle.symm.trans (listed.trans rest)).cons_inv
  · exact fun other given => given_disconnect given id
  · exact fun id listener same => absurd same (quiet id listener)

theorem disconnectAll (faithful : Faithful traffic) :
    Faithful
      { signal := traffic.signal.disconnectAll
        guards
        log := traffic.log ++ [.cleared] } := by
  have fits : (Happening.cleared : Happening Listener Value).Fits traffic.log := trivial
  apply faithful.concat fits
  · exact disconnectAll_keeps Sound (fun id sound => sound.disconnect id) faithful.sound
  · intro id listener
    simp [listener?_disconnectAll, Happening.keep]
  · exact List.nodup_nil
  · rw [listeners_disconnectAll]
    exact .nil
  · intro id given
    exact disconnectAll_keeps (Given · id) (fun other kept => given_disconnect kept other) given
  · exact nofun

theorem request (faithful : Faithful traffic) (request : Request Listener) :
    Faithful (traffic.request request) := by
  cases request with
  | connect listener | connectGuarded listener => exact faithful.connect listener
  | dropGuard place =>
      show Faithful (match traffic.guards[place]? with | some id => _ | none => _)
      cases traffic.guards[place]? with
      | none => exact faithful
      | some id => exact faithful.disconnect id trivial rfl nofun
  | disconnect id =>
      have fits : (Happening.disconnected id (traffic.signal.disconnect id).1 :
          Happening Listener Value).Fits traffic.log := by
        simp only [Happening.Fits, disconnect_answer, ← faithful.held]
        exact Option.isSome_iff_exists
      exact faithful.disconnect id fits rfl nofun
  | disconnectAll => exact faithful.disconnectAll
  | count => exact faithful.note faithful.count rfl nofun

theorem requests (faithful : Faithful traffic) (requests : List (Request Listener)) :
    Faithful (requests.foldl Traffic.request traffic) := by
  induction requests generalizing traffic with
  | nil => exact faithful
  | cons first rest ih => exact ih (faithful.request first)

theorem call (faithful : Faithful traffic) (conduct : Conduct Listener Value) (value : Value)
    (listener : Listener) : Faithful (traffic.call conduct value listener) := by
  have fits : (Happening.called listener value).Fits traffic.log := trivial
  exact (faithful.note fits rfl nofun).requests _

theorem callAll (faithful : Faithful traffic) (conduct : Conduct Listener Value) (value : Value)
    (listeners : List Listener) :
    Faithful (listeners.foldl (fun traffic listener => traffic.call conduct value listener)
      traffic) := by
  induction listeners generalizing traffic with
  | nil => exact faithful
  | cons first rest ih => exact ih (faithful.call conduct value first)

theorem act (faithful : Faithful traffic) (conduct : Conduct Listener Value)
    (act : Act Listener Value) : Faithful (traffic.act conduct act) := by
  cases act with
  | ask request => exact faithful.request request
  | emit value =>
      have starts : (Happening.emitted value : Happening Listener Value).Fits traffic.log := trivial
      have called := (faithful.note starts rfl nofun).callAll conduct value traffic.signal.listeners
      exact called.note trivial rfl nofun

end Faithful

section Telling

variable {traffic : Traffic Listener Value} {log later last : List (Happening Listener Value)}
  {called more : List (Listener × Value)}

/-- What was written since: no event starts or ends in it, and these calls were made. -/
def Tells (log later : List (Happening Listener Value)) (called : List (Listener × Value)) : Prop :=
  ∃ since, later = log ++ since ∧ (∀ happening ∈ since, happening.isLimit = false) ∧
    calls since = called

theorem Tells.refl (log : List (Happening Listener Value)) : Tells log log [] :=
  ⟨[], by simp, by simp, rfl⟩

theorem Tells.trans (first : Tells log later called) (second : Tells later last more) :
    Tells log last (called ++ more) := by
  obtain ⟨since, rfl, quiet, rfl⟩ := first
  obtain ⟨since', rfl, quiet', rfl⟩ := second
  refine ⟨since ++ since', by rw [List.append_assoc], ?_, calls_append since since'⟩
  exact List.forall_mem_append.mpr ⟨quiet, quiet'⟩

theorem Tells.note {happening : Happening Listener Value} (quiet : happening.isLimit = false) :
    Tells traffic.log (traffic.note happening).log happening.call?.toList := by
  refine ⟨[happening], rfl, by simpa using quiet, ?_⟩
  cases happening <;> rfl

theorem Tells.request (traffic : Traffic Listener Value) (request : Request Listener) :
    Tells traffic.log (traffic.request request).log [] := by
  cases request with
  | dropGuard place =>
      show Tells _ (match traffic.guards[place]? with | some id => _ | none => traffic).log []
      cases traffic.guards[place]? with
      | none => exact .refl _
      | some id => exact ⟨[.dropped id], rfl, by simp [Happening.isLimit], rfl⟩
  | connect listener | connectGuarded listener | disconnect id | disconnectAll | count =>
      exact ⟨[_], rfl, by simp [Happening.isLimit], rfl⟩

theorem Tells.requests (traffic : Traffic Listener Value) (requests : List (Request Listener)) :
    Tells traffic.log (requests.foldl Traffic.request traffic).log [] := by
  induction requests generalizing traffic with
  | nil => exact .refl _
  | cons first rest ih => exact (Tells.request traffic first).trans (ih _)

theorem Tells.call (conduct : Conduct Listener Value) (value : Value) (listener : Listener) :
    Tells traffic.log (traffic.call conduct value listener).log [(listener, value)] := by
  have noted : Tells traffic.log (traffic.note (.called listener value)).log _ := .note rfl
  exact noted.trans (.requests _ _)

theorem Tells.callAll (conduct : Conduct Listener Value) (value : Value)
    (listeners : List Listener) :
    Tells traffic.log
      (listeners.foldl (fun traffic listener => traffic.call conduct value listener) traffic).log
      (listeners.map (·, value)) := by
  induction listeners generalizing traffic with
  | nil => exact .refl _
  | cons first rest ih => exact (Tells.call conduct value first).trans ih

/-- Whatever event was started, those that were connected at that moment were called once each with
its value, and nobody else, before it was finished. -/
def Delivered (log : List (Happening Listener Value)) : Prop :=
  ∀ past value rest, log = past ++ .emitted value :: rest →
    ∃ during later, rest = during ++ .finished :: later ∧
      (∀ happening ∈ during, happening.isLimit = false) ∧
      (calls during).Perm ((present past).map fun connection => (connection.2, value))

theorem Delivered.tells (delivered : Delivered log) (tells : Tells log later called) :
    Delivered later := by
  obtain ⟨since, rfl, quiet, _⟩ := tells
  intro past value rest split
  have apart : .emitted value ∉ since := fun member => nomatch quiet _ member
  obtain ⟨between, earlier, rfl⟩ := Log.of_append split apart
  obtain ⟨during, later, rfl, within, calls⟩ := delivered past value between earlier
  exact ⟨during, later ++ since, by simp, within, calls⟩

theorem Delivered.emit (delivered : Delivered traffic.log) (faithful : Faithful traffic)
    (conduct : Conduct Listener Value) (value : Value) :
    Delivered (traffic.emit conduct value).log := by
  obtain ⟨during, told, quiet, called⟩ : Tells (traffic.note (.emitted value)).log _ _ :=
    .callAll conduct value traffic.signal.listeners
  have whole : (traffic.emit conduct value).log =
      traffic.log ++ .emitted value :: (during ++ [.finished]) := by
    have before : (traffic.signal.emit (Traffic.call conduct value)
        (traffic.note (.emitted value))).log = traffic.log ++ [.emitted value] ++ during := told
    rw [Traffic.emit, Traffic.note, before]
    simp
  intro past other rest split
  rw [whole] at split
  have apart : .emitted other ∉ during ++ [.finished] := by
    rw [List.mem_append, List.mem_singleton, not_or]
    exact ⟨fun member => (nomatch quiet _ member), nofun⟩
  rcases Log.of_append_cons split apart with ⟨rfl, same, rfl⟩ | ⟨between, earlier, rfl⟩
  · obtain rfl := Happening.emitted.inj same
    refine ⟨during, [], rfl, quiet, ?_⟩
    have listed := faithful.listed.map (·, value)
    rwa [List.map_map, ← called] at listed
  · obtain ⟨inside, later, rfl, within, calls⟩ := delivered past other between earlier
    exact ⟨inside, later ++ .emitted value :: (during ++ [.finished]), by simp, within, calls⟩

end Telling

variable {traffic : Traffic Listener Value}

theorem delivered_act (delivered : Delivered traffic.log) (faithful : Faithful traffic)
    (conduct : Conduct Listener Value) (act : Act Listener Value) :
    Delivered (traffic.act conduct act).log := by
  cases act with
  | ask request => exact delivered.tells (.request traffic request)
  | emit value => exact delivered.emit faithful conduct value

theorem faithful_after (conduct : Conduct Listener Value) (acts : List (Act Listener Value)) :
    Faithful (Traffic.after conduct acts) ∧ Delivered (Traffic.after conduct acts).log := by
  induction acts using List.reverseRecOn with
  | nil =>
      refine ⟨.start, ?_⟩
      intro past value rest split
      simp [Traffic.after] at split
  | append_singleton acts act ih =>
      obtain ⟨faithful, delivered⟩ := ih
      rw [Traffic.after, List.foldl_append]
      exact ⟨faithful.act conduct act, delivered_act delivered faithful conduct act⟩

/-- Whatever the owner of a signal and its listeners do, each event calls just those that were
connected when it started, and each of them once; all answers agree with which connections were made
and not removed, an id is never given out twice, and the signal has just these connections. -/
theorem delivery_exact (conduct : Conduct Listener Value) (acts : List (Act Listener Value)) :
    let traffic := Traffic.after conduct acts
    Delivered traffic.log ∧
      (∀ past happening rest, traffic.log = past ++ happening :: rest → happening.Fits past) ∧
      (∀ id listener, traffic.signal.listener? id = some listener ↔
        (id, listener) ∈ present traffic.log) ∧
      traffic.signal.count = (present traffic.log).length := by
  intro traffic
  obtain ⟨faithful, delivered⟩ := faithful_after conduct acts
  exact ⟨delivered, faithful.fits, faithful.held, faithful.count⟩

/-- The first listener makes room for the second when it is called, which then sits in its place; its
old id does not remove the second. -/
example :
    let traffic := Traffic.after
      (fun listener _ _ => if listener = 1 then [.disconnect ⟨0, 0⟩, .connect 2] else [])
      [.ask (.connect 1), .emit 7, .ask (.disconnect ⟨0, 0⟩), .emit 8]
    calls traffic.log = [(1, 7), (2, 8)] ∧ present traffic.log = [(⟨0, 1⟩, 2)] := by
  decide

end LiveList.Signal
