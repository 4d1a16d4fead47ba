import LiveList.Proofs.Seats
import LiveList.Service.Requests

/-!
The skeleton of the service: its signals, and what of sessions and views decides who listens to
them. In a sound skeleton every listener of a list has a known seat, a view sits at its list exactly
while it is active, and every view will be torn down with the session that it belongs to.
-/

namespace LiveList

structure Card where
  session : Nat
  list : ListName
  closing : ConnectionId
  connection : Option ConnectionId
  active : Bool

structure Posts where
  forwarder : ListName → Option ConnectionId
  view : ListName → Nat

structure Desk where
  closing : Signal Nat
  posts : Option Posts

@[ext] structure Skeleton where
  signal : ListName → Signal Listener
  desk : Nat → Option Desk
  card : Nat → Option Card
  nextView : Nat

def ListName.all (session : Nat) : List ListName := [.bundles, .roots, .hubs, .results session]

namespace Skeleton

def posts (skeleton : Skeleton) (session : Nat) : Option Posts :=
  (skeleton.desk session).bind (·.posts)

def forwarders (skeleton : Skeleton) (list : ListName) (session : Nat) : Option ConnectionId :=
  (skeleton.posts session).bind (·.forwarder list)

def seat (forwarders : ListName → Nat → Option ConnectionId) (skeleton : Skeleton)
    (list : ListName) : Listener → Option ConnectionId
  | .forwarder session => forwarders list session
  | .view id =>
      (skeleton.card id).bind fun card => if card.list = list then card.connection else none

def Seats (forwarders : ListName → Nat → Option ConnectionId) (skeleton : Skeleton) : Prop :=
  ∀ list, (skeleton.signal list).Seats (skeleton.seat forwarders list)

/-- A view is connected exactly while it is active, and its session has a guard for it. -/
structure Orderly (skeleton : Skeleton) : Prop where
  fits : ∀ {id card}, skeleton.card id = some card → card.connection.isSome = card.active
  fresh : ∀ {id card}, skeleton.card id = some card → id < skeleton.nextView
  housed : ∀ {id card session}, skeleton.card id = some card → card.list = .results session →
    ∃ desk, skeleton.desk session = some desk
  closings : ∀ {session desk}, skeleton.desk session = some desk → desk.closing.Sound
  guarded : ∀ {id card}, skeleton.card id = some card → ∃ desk,
    skeleton.desk card.session = some desk ∧ desk.closing.listener? card.closing = some id

def Opened (skeleton : Skeleton) (session : Nat) (list : ListName) (id : Nat) : Prop :=
  ∃ card, skeleton.card id = some card ∧ card.session = session ∧ card.list = list

/-- The modules of every session have their views, and every other view is foreign. -/
structure Staffed (foreign : Nat → Prop) (skeleton : Skeleton) : Prop where
  served : ∀ {session posts}, skeleton.posts session = some posts →
    ∀ list ∈ ListName.all session,
      ¬ foreign (posts.view list) ∧ skeleton.Opened session list (posts.view list)
  owned : ∀ {id card}, skeleton.card id = some card → ¬ foreign id →
    card.list ∈ ListName.all card.session ∧
      ∃ posts, skeleton.posts card.session = some posts ∧ posts.view card.list = id
  outside : ∀ {id}, foreign id → ∃ card, skeleton.card id = some card

/-- The forwarders are given apart: while the modules of a session are set up or dropped, they are
not the ones that the modules keep. -/
structure Sound (foreign : Nat → Prop) (forwarders : ListName → Nat → Option ConnectionId)
    (skeleton : Skeleton) : Prop where
  seats : skeleton.Seats forwarders
  orderly : skeleton.Orderly
  staffed : skeleton.Staffed foreign

def setSignal (skeleton : Skeleton) (list : ListName) (signal : Signal Listener) : Skeleton :=
  { skeleton with signal := fun other => if other = list then signal else skeleton.signal other }

def setDesk (skeleton : Skeleton) (session : Nat) (desk : Desk) : Skeleton :=
  { skeleton with desk := fun other => if other = session then some desk else skeleton.desk other }

def setCard (skeleton : Skeleton) (id : Nat) (card : Option Card) : Skeleton :=
  { skeleton with card := fun other => if other = id then card else skeleton.card other }

def openCard (skeleton : Skeleton) (session : Nat) (desk : Desk) (list : ListName) : Skeleton :=
  let id := skeleton.nextView
  let (closing, guards) := desk.closing.connect id
  let card : Card := { session, list, closing, connection := none, active := false }
  { (skeleton.setDesk session { desk with closing := guards }).setCard id (some card) with
    nextView := id + 1 }

def closeCard (skeleton : Skeleton) (id : Nat) (card : Card) (desk : Desk) : Skeleton :=
  let guards := (desk.closing.disconnect card.closing).2
  (skeleton.setDesk card.session { desk with closing := guards }).setCard id none

variable {forwarders : ListName → Nat → Option ConnectionId} {foreign : Nat → Prop}
  {skeleton : Skeleton} {id session : Nat} {card old : Card} {desk other : Desk}
  {list : ListName} {posts : Posts}

theorem openCard_card (skeleton : Skeleton) (session : Nat) (desk : Desk) (list : ListName)
    (id : Nat) : (skeleton.openCard session desk list).card id =
      if id = skeleton.nextView then
        some ⟨session, list, (desk.closing.connect skeleton.nextView).1, none, false⟩
      else skeleton.card id := rfl

theorem openCard_desk (skeleton : Skeleton) (session : Nat) (desk : Desk) (list : ListName)
    (number : Nat) : (skeleton.openCard session desk list).desk number =
      if number = session then
        some { desk with closing := (desk.closing.connect skeleton.nextView).2 }
      else skeleton.desk number := rfl

theorem closeCard_card (skeleton : Skeleton) (id : Nat) (card : Card) (desk : Desk)
    (number : Nat) : (skeleton.closeCard id card desk).card number =
      if number = id then none else skeleton.card number := rfl

theorem closeCard_desk (skeleton : Skeleton) (id : Nat) (card : Card) (desk : Desk)
    (number : Nat) : (skeleton.closeCard id card desk).desk number =
      if number = card.session then
        some { desk with closing := (desk.closing.disconnect card.closing).2 }
      else skeleton.desk number := rfl

theorem Staffed.congr (staffed : skeleton.Staffed foreign) {after : Nat → Prop}
    (same : ∀ id, after id ↔ foreign id) : skeleton.Staffed after := by
  rwa [show after = foreign from funext fun id => propext (same id)]

theorem Sound.congr (sound : skeleton.Sound foreign forwarders) {after : Nat → Prop}
    (same : ∀ id, after id ↔ foreign id) : skeleton.Sound after forwarders :=
  ⟨sound.seats, sound.orderly, sound.staffed.congr same⟩

theorem Sound.reconnect (sound : skeleton.Sound foreign forwarders)
    {after : ListName → Nat → Option ConnectionId}
    (same : ∀ list session, after list session = forwarders list session) :
    skeleton.Sound foreign after := by
  rwa [show after = forwarders from funext fun list => funext (same list)]

section Signals

variable {signal : Signal Listener}

theorem Seats.connect (seats : skeleton.Seats forwarders)
    (apart : forwarders list session = none) :
    (skeleton.setSignal list ((skeleton.signal list).connect (.forwarder session)).2).Seats
      fun other number => if other = list ∧ number = session
        then some ((skeleton.signal list).connect (.forwarder session)).1
        else forwarders other number := by
  intro other
  by_cases here : other = list
  · subst here
    have apart : skeleton.seat forwarders other (.forwarder session) = none := apart
    simp only [setSignal, if_pos]
    refine ((seats other).connect apart).congr fun listener => ?_
    cases listener <;> simp [seat]
  · simp only [setSignal, if_neg here]
    refine (seats other).congr fun listener => ?_
    cases listener <;> simp [seat, here]

theorem Seats.disconnect (seats : skeleton.Seats forwarders) {connection : ConnectionId}
    (held : forwarders list session = some connection) :
    (skeleton.setSignal list ((skeleton.signal list).disconnect connection).2).Seats
      fun other number => if other = list ∧ number = session then none
        else forwarders other number := by
  intro other
  by_cases here : other = list
  · subst here
    have held : skeleton.seat forwarders other (.forwarder session) = some connection := held
    simp only [setSignal, if_pos]
    refine ((seats other).disconnect held).congr fun listener => ?_
    cases listener <;> simp [seat]
  · simp only [setSignal, if_neg here]
    refine (seats other).congr fun listener => ?_
    cases listener <;> simp [seat, here]

theorem Orderly.setSignal (orderly : skeleton.Orderly) :
    (skeleton.setSignal list signal).Orderly :=
  ⟨orderly.fits, orderly.fresh, orderly.housed, orderly.closings, orderly.guarded⟩

theorem Staffed.setSignal (staffed : skeleton.Staffed foreign) :
    (skeleton.setSignal list signal).Staffed foreign :=
  ⟨staffed.served, staffed.owned, staffed.outside⟩

theorem Sound.connect (sound : skeleton.Sound foreign forwarders)
    (apart : forwarders list session = none) :
    (skeleton.setSignal list ((skeleton.signal list).connect (.forwarder session)).2).Sound foreign
      fun other number => if other = list ∧ number = session
        then some ((skeleton.signal list).connect (.forwarder session)).1
        else forwarders other number :=
  ⟨sound.seats.connect apart, sound.orderly.setSignal, sound.staffed.setSignal⟩

theorem Sound.disconnect (sound : skeleton.Sound foreign forwarders) {connection : ConnectionId}
    (held : forwarders list session = some connection) :
    (skeleton.setSignal list ((skeleton.signal list).disconnect connection).2).Sound foreign
      fun other number => if other = list ∧ number = session then none
        else forwarders other number :=
  ⟨sound.seats.disconnect held, sound.orderly.setSignal, sound.staffed.setSignal⟩

end Signals

section Moves

structure Moved (old card : Card) : Prop where
  session : card.session = old.session
  list : card.list = old.list
  closing : card.closing = old.closing
  fits : card.connection.isSome = card.active

theorem Seats.move (seats : skeleton.Seats forwarders) (found : skeleton.card id = some old)
    (moved : Moved old card) {signal : Signal Listener}
    (settled : signal.Seats fun other =>
      if other = .view id then card.connection else skeleton.seat forwarders card.list other) :
    ((skeleton.setSignal card.list signal).setCard id (some card)).Seats forwarders := by
  intro list
  by_cases here : list = card.list
  · subst here
    simp only [setSignal, setCard, if_pos]
    refine settled.congr fun listener => ?_
    cases listener with
    | forwarder session => rfl
    | view other =>
        by_cases same : other = id
        · simp [seat, same]
        · simp [seat, same]
  · simp only [setSignal, setCard, if_neg here]
    refine (seats list).congr fun listener => ?_
    cases listener with
    | forwarder session => rfl
    | view other =>
        by_cases same : other = id
        · simp [seat, same, found, ← moved.list, Ne.symm here]
        · simp [seat, same]

theorem card_moved (orderly : skeleton.Orderly) (found : skeleton.card id = some old)
    (moved : Moved old card) {number : Nat} {after : Card}
    (here : (skeleton.setCard id (some card)).card number = some after) :
    ∃ before, skeleton.card number = some before ∧ Moved before after := by
  simp only [setCard] at here
  split at here
  · rename_i same
    exact ⟨old, same ▸ found, Option.some.inj here ▸ moved⟩
  · exact ⟨after, here, rfl, rfl, rfl, orderly.fits here⟩

theorem Orderly.move (orderly : skeleton.Orderly) (found : skeleton.card id = some old)
    (moved : Moved old card) : (skeleton.setCard id (some card)).Orderly := by
  constructor
  · intro number after here
    obtain ⟨_, _, moved⟩ := card_moved orderly found moved here
    exact moved.fits
  · intro number after here
    obtain ⟨before, found, _⟩ := card_moved orderly found moved here
    exact orderly.fresh found
  · intro number after session here list
    obtain ⟨before, found, moved⟩ := card_moved orderly found moved here
    exact orderly.housed found (moved.list ▸ list)
  · exact orderly.closings
  · intro number after here
    obtain ⟨before, found, moved⟩ := card_moved orderly found moved here
    rw [moved.session, moved.closing]
    exact orderly.guarded found

theorem Staffed.move (staffed : skeleton.Staffed foreign) (orderly : skeleton.Orderly)
    (found : skeleton.card id = some old) (moved : Moved old card) :
    (skeleton.setCard id (some card)).Staffed foreign := by
  constructor
  · intro session posts there list listed
    obtain ⟨own, before, present, at_session, at_list⟩ := staffed.served there list listed
    refine ⟨own, ?_⟩
    by_cases same : posts.view list = id
    · rw [same, found, Option.some.injEq] at present
      subst present
      exact ⟨card, if_pos same, moved.session.trans at_session, moved.list.trans at_list⟩
    · exact ⟨before, (if_neg same).trans present, at_session, at_list⟩
  · intro number after here own
    obtain ⟨before, found, moved⟩ := card_moved orderly found moved here
    rw [moved.session, moved.list]
    exact staffed.owned found own
  · intro number out
    by_cases same : number = id
    · exact ⟨card, if_pos same⟩
    · obtain ⟨before, present⟩ := staffed.outside out
      exact ⟨before, (if_neg same).trans present⟩

theorem Sound.move (sound : skeleton.Sound foreign forwarders)
    (found : skeleton.card id = some old) (moved : Moved old card) {signal : Signal Listener}
    (settled : signal.Seats fun other =>
      if other = .view id then card.connection else skeleton.seat forwarders card.list other) :
    ((skeleton.setSignal card.list signal).setCard id (some card)).Sound foreign forwarders :=
  ⟨sound.seats.move found moved settled, sound.orderly.setSignal.move found moved,
    sound.staffed.setSignal.move sound.orderly.setSignal found moved⟩

end Moves

section Desks

/-- Views that are not connected have no part in who sits where. -/
theorem Seats.idle (seats : skeleton.Seats forwarders) {after : Skeleton}
    (signals : after.signal = skeleton.signal)
    (idle : ∀ id, after.card id = skeleton.card id ∨
      (∀ card, skeleton.card id = some card → card.connection = none) ∧
      (∀ card, after.card id = some card → card.connection = none)) :
    after.Seats forwarders := by
  intro list
  rw [signals]
  refine (seats list).congr fun listener => ?_
  cases listener with
  | forwarder session => rfl
  | view id =>
      rcases idle id with same | ⟨before, later⟩
      · simp only [seat, same]
      · have unseated {cards : Option Card}
            (free : ∀ card, cards = some card → card.connection = none) :
            (cards.bind fun card => if card.list = list then card.connection else none) = none := by
          cases cards with
          | none => rfl
          | some card => simp [free card rfl]
        simp only [seat, unseated before, unseated later]

theorem desk_setDesk (found : skeleton.desk session = some desk)
    (same : other.closing = desk.closing) {number : Nat} {before : Desk}
    (here : skeleton.desk number = some before) :
    ∃ after, (skeleton.setDesk session other).desk number = some after ∧
      after.closing = before.closing := by
  by_cases at_session : number = session
  · subst at_session
    rw [found, Option.some.injEq] at here
    exact ⟨other, if_pos rfl, here ▸ same⟩
  · exact ⟨before, (if_neg at_session).trans here, rfl⟩

/-- The guards of a session do not depend on its modules. -/
theorem Orderly.setDesk (orderly : skeleton.Orderly) (found : skeleton.desk session = some desk)
    (same : other.closing = desk.closing) : (skeleton.setDesk session other).Orderly := by
  constructor
  · exact orderly.fits
  · exact orderly.fresh
  · intro id card number here list
    obtain ⟨before, there⟩ := orderly.housed here list
    obtain ⟨after, present, _⟩ := desk_setDesk found same there
    exact ⟨after, present⟩
  · intro number after here
    simp only [Skeleton.setDesk] at here
    split at here
    · rw [← Option.some.inj here, same]
      exact orderly.closings found
    · exact orderly.closings here
  · intro id card here
    obtain ⟨before, there, guard⟩ := orderly.guarded here
    obtain ⟨after, present, closing⟩ := desk_setDesk found same there
    exact ⟨after, present, closing ▸ guard⟩

theorem posts_setDesk (skeleton : Skeleton) (session number : Nat) (desk : Desk) :
    (skeleton.setDesk session desk).posts number =
      if number = session then desk.posts else skeleton.posts number := by
  simp only [posts, setDesk]
  split <;> rfl

theorem posts_keep (found : skeleton.desk session = some desk) (other : Desk)
    (same : other.posts = desk.posts) (number : Nat) :
    (skeleton.setDesk session other).posts number = skeleton.posts number := by
  rw [posts_setDesk]
  split
  · rename_i here
    rw [Skeleton.posts, here, found, same]
    rfl
  · rfl

/-- Views that were opened for a session become the views of its modules. -/
theorem Staffed.hire (staffed : skeleton.Staffed foreign) (vacant : skeleton.posts session = none)
    (ready : ∀ list ∈ ListName.all session, skeleton.Opened session list (posts.view list))
    (new : desk.posts = some posts) :
    (skeleton.setDesk session desk).Staffed fun id =>
      foreign id ∧ ∀ list ∈ ListName.all session, posts.view list ≠ id := by
  constructor
  · intro number there hired list listed
    rw [posts_setDesk] at hired
    split at hired
    · rename_i same
      subst same
      obtain rfl := Option.some.inj (new.symm.trans hired)
      exact ⟨fun out => out.2 list listed rfl, ready list listed⟩
    · obtain ⟨own, served⟩ := staffed.served hired list listed
      exact ⟨fun out => own out.1, served⟩
  · intro id card here own
    rw [posts_setDesk]
    by_cases out : foreign id
    · have hired : ∃ list ∈ ListName.all session, posts.view list = id := by
        simpa [out] using own
      obtain ⟨list, listed, rfl⟩ := hired
      obtain ⟨other, there, rfl, rfl⟩ := ready list listed
      obtain rfl := Option.some.inj (there.symm.trans here)
      exact ⟨listed, posts, (if_pos rfl).trans new, rfl⟩
    · obtain ⟨listed, posts, there, own⟩ := staffed.owned here out
      have elsewhere : card.session ≠ session := by
        intro same
        rw [same, vacant] at there
        cases there
      exact ⟨listed, posts, (if_neg elsewhere).trans there, own⟩
  · exact fun out => staffed.outside out.1

theorem Sound.hire (sound : skeleton.Sound foreign forwarders)
    (found : skeleton.desk session = some desk) (vacant : desk.posts = none) (posts : Posts)
    (ready : ∀ list ∈ ListName.all session, skeleton.Opened session list (posts.view list)) :
    (skeleton.setDesk session { desk with posts := some posts }).Sound
      (fun id => foreign id ∧ ∀ list ∈ ListName.all session, posts.view list ≠ id) forwarders := by
  refine ⟨sound.seats.idle rfl fun id => .inl rfl, sound.orderly.setDesk found rfl, ?_⟩
  refine sound.staffed.hire ?_ ready rfl
  rw [Skeleton.posts, found]
  exact vacant

/-- The views of modules that are dropped do not belong to modules any more. -/
theorem Staffed.dismiss (staffed : skeleton.Staffed foreign)
    (hired : skeleton.posts session = some posts) (vacant : desk.posts = none) :
    (skeleton.setDesk session desk).Staffed fun id =>
      foreign id ∨ ∃ list ∈ ListName.all session, posts.view list = id := by
  constructor
  · intro number there later list listed
    rw [posts_setDesk] at later
    split at later
    · rw [vacant] at later
      cases later
    · rename_i elsewhere
      obtain ⟨own, card, present, at_session, at_list⟩ := staffed.served later list listed
      refine ⟨?_, card, present, at_session, at_list⟩
      rintro (out | ⟨other, also, same⟩)
      · exact own out
      · obtain ⟨_, second, there, session_eq, _⟩ := staffed.served hired other also
        rw [same, present, Option.some.injEq] at there
        exact elsewhere (at_session.symm.trans (there ▸ session_eq))
  · intro id card here own
    obtain ⟨inside, dropped⟩ := not_or.mp own
    obtain ⟨listed, there, present, same⟩ := staffed.owned here inside
    have elsewhere : card.session ≠ session := by
      rintro rfl
      rw [hired, Option.some.injEq] at present
      exact dropped ⟨card.list, listed, present ▸ same⟩
    rw [posts_setDesk]
    exact ⟨listed, there, (if_neg elsewhere).trans present, same⟩
  · rintro id (out | ⟨list, listed, rfl⟩)
    · exact staffed.outside out
    · obtain ⟨_, card, present, _⟩ := staffed.served hired list listed
      exact ⟨card, present⟩

theorem Sound.dismiss (sound : skeleton.Sound foreign forwarders)
    (found : skeleton.desk session = some desk) (hired : desk.posts = some posts) :
    (skeleton.setDesk session { desk with posts := none }).Sound
      (fun id => foreign id ∨ ∃ list ∈ ListName.all session, posts.view list = id) forwarders := by
  refine ⟨sound.seats.idle rfl fun id => .inl rfl, sound.orderly.setDesk found rfl, ?_⟩
  refine sound.staffed.dismiss ?_ rfl
  rw [Skeleton.posts, found]
  exact hired

/-- A session that there was nothing of before. -/
theorem Sound.enter (sound : skeleton.Sound foreign forwarders)
    (absent : skeleton.desk session = none) :
    (skeleton.setDesk session ⟨{}, none⟩).Sound foreign forwarders := by
  have kept {number : Nat} {before : Desk} (here : skeleton.desk number = some before) :
      (skeleton.setDesk session ⟨{}, none⟩).desk number = some before := by
    have elsewhere : number ≠ session := by
      rintro rfl
      rw [absent] at here
      cases here
    exact (if_neg elsewhere).trans here
  have posts (number : Nat) :
      (skeleton.setDesk session ⟨{}, none⟩).posts number = skeleton.posts number := by
    rw [posts_setDesk]
    split
    · rename_i same
      rw [Skeleton.posts, same, absent]
      rfl
    · rfl
  refine ⟨sound.seats.idle rfl fun id => .inl rfl, ?_, ?_⟩
  · have orderly := sound.orderly
    refine ⟨orderly.fits, orderly.fresh, fun here list => ?_, fun {number after} here => ?_,
      fun here => ?_⟩
    · obtain ⟨before, there⟩ := orderly.housed here list
      exact ⟨before, kept there⟩
    · simp only [setDesk] at here
      split at here
      · rw [← Option.some.inj here]
        exact .start
      · exact orderly.closings here
    · obtain ⟨before, there, guard⟩ := orderly.guarded here
      exact ⟨before, kept there, guard⟩
  · constructor
    · intro number there hired
      rw [posts] at hired
      exact sound.staffed.served hired
    · intro id card here own
      rw [posts]
      exact sound.staffed.owned here own
    · exact sound.staffed.outside

end Desks

section Views

theorem Orderly.absent (orderly : skeleton.Orderly) : skeleton.card skeleton.nextView = none := by
  cases found : skeleton.card skeleton.nextView with
  | none => rfl
  | some card => exact absurd (orderly.fresh found) (Nat.lt_irrefl _)

theorem openCard_posts (found : skeleton.desk session = some desk) (list : ListName) (number : Nat) :
    (skeleton.openCard session desk list).posts number = skeleton.posts number :=
  posts_keep found { desk with closing := (desk.closing.connect skeleton.nextView).2 } rfl number

theorem closeCard_posts (there : skeleton.desk card.session = some desk) (id number : Nat) :
    (skeleton.closeCard id card desk).posts number = skeleton.posts number :=
  posts_keep there { desk with closing := (desk.closing.disconnect card.closing).2 } rfl number

theorem openCard_opened (skeleton : Skeleton) (session : Nat) (desk : Desk) (list : ListName) :
    (skeleton.openCard session desk list).Opened session list skeleton.nextView :=
  ⟨_, if_pos rfl, rfl, rfl⟩

theorem Opened.stays (opened : skeleton.Opened session list id) (orderly : skeleton.Orderly)
    (number : Nat) (desk : Desk) (other : ListName) :
    (skeleton.openCard number desk other).Opened session list id := by
  obtain ⟨card, present, rest⟩ := opened
  exact ⟨card, (if_neg (Nat.ne_of_lt (orderly.fresh present))).trans present, rest⟩

theorem Orderly.open (orderly : skeleton.Orderly) (found : skeleton.desk session = some desk)
    (housed : ∀ number, list = .results number → ∃ desk, skeleton.desk number = some desk) :
    (skeleton.openCard session desk list).Orderly := by
  have kept {number : Nat} {before : Desk} (here : skeleton.desk number = some before) :
      ∃ after, (skeleton.openCard session desk list).desk number = some after := by
    rw [openCard_desk]
    split
    · exact ⟨_, rfl⟩
    · exact ⟨before, here⟩
  have guards := orderly.closings found
  constructor
  · intro id card here
    rw [openCard_card] at here
    split at here
    · rw [← Option.some.inj here]
      rfl
    · exact orderly.fits here
  · intro id card here
    rw [openCard_card] at here
    split at here
    · rename_i same
      exact same ▸ Nat.lt_succ_self _
    · exact Nat.lt_succ_of_lt (orderly.fresh here)
  · intro id card number here at_list
    rw [openCard_card] at here
    split at here
    · obtain rfl := Option.some.inj here
      obtain ⟨before, there⟩ := housed number at_list
      exact kept there
    · obtain ⟨before, there⟩ := orderly.housed here at_list
      exact kept there
  · intro number after here
    rw [openCard_desk] at here
    split at here
    · rw [← Option.some.inj here]
      exact guards.connect _
    · exact orderly.closings here
  · intro id card here
    rw [openCard_card] at here
    split at here
    · rename_i same
      obtain rfl := Option.some.inj here
      refine ⟨_, (openCard_desk ..).trans (if_pos rfl), ?_⟩
      rw [guards.listener?_connect, if_pos rfl, same]
    · obtain ⟨before, there, guard⟩ := orderly.guarded here
      by_cases at_session : card.session = session
      · rw [at_session, found, Option.some.injEq] at there
        subst there
        refine ⟨_, (openCard_desk ..).trans (if_pos at_session), ?_⟩
        have apart : card.closing ≠ (desk.closing.connect skeleton.nextView).1 := by
          intro same
          rw [same, guards.listener?_fresh] at guard
          cases guard
        rw [guards.listener?_connect, if_neg apart]
        exact guard
      · exact ⟨before, (if_neg at_session).trans there, guard⟩

theorem Staffed.open (staffed : skeleton.Staffed foreign) (orderly : skeleton.Orderly)
    (found : skeleton.desk session = some desk) :
    (skeleton.openCard session desk list).Staffed fun id => foreign id ∨ id = skeleton.nextView := by
  constructor
  · intro number there hired list listed
    rw [openCard_posts found] at hired
    obtain ⟨own, card, present, rest⟩ := staffed.served hired list listed
    have elsewhere : there.view list ≠ skeleton.nextView := Nat.ne_of_lt (orderly.fresh present)
    exact ⟨not_or.mpr ⟨own, elsewhere⟩, card, (if_neg elsewhere).trans present, rest⟩
  · intro id card here own
    obtain ⟨inside, elsewhere⟩ := not_or.mp own
    rw [openCard_card, if_neg elsewhere] at here
    rw [openCard_posts found]
    exact staffed.owned here inside
  · rintro id out
    by_cases new : id = skeleton.nextView
    · exact ⟨_, (openCard_card ..).trans (if_pos new)⟩
    · obtain ⟨card, present⟩ := staffed.outside (out.resolve_right new)
      exact ⟨card, (if_neg new).trans present⟩

theorem Sound.open (sound : skeleton.Sound foreign forwarders)
    (found : skeleton.desk session = some desk)
    (housed : ∀ number, list = .results number → ∃ desk, skeleton.desk number = some desk) :
    (skeleton.openCard session desk list).Sound
      (fun id => foreign id ∨ id = skeleton.nextView) forwarders := by
  refine ⟨sound.seats.idle rfl fun id => ?_, sound.orderly.open found housed,
    sound.staffed.open sound.orderly found⟩
  by_cases new : id = skeleton.nextView
  · right
    constructor
    · intro card here
      rw [new, sound.orderly.absent] at here
      cases here
    · intro card here
      rw [openCard_card, if_pos new, Option.some.injEq] at here
      rw [← here]
  · exact .inl (if_neg new)

theorem Orderly.close (orderly : skeleton.Orderly) (found : skeleton.card id = some card)
    (there : skeleton.desk card.session = some desk) :
    (skeleton.closeCard id card desk).Orderly := by
  have known {number : Nat} {after : Card}
      (here : (skeleton.closeCard id card desk).card number = some after) :
      number ≠ id ∧ skeleton.card number = some after := by
    rw [closeCard_card] at here
    split at here
    · cases here
    · rename_i elsewhere
      exact ⟨elsewhere, here⟩
  constructor
  · intro number after here
    exact orderly.fits (known here).2
  · intro number after here
    exact orderly.fresh (known here).2
  · intro number after session here list
    obtain ⟨before, present⟩ := orderly.housed (known here).2 list
    simp only [closeCard_desk]
    split
    · exact ⟨_, rfl⟩
    · exact ⟨before, present⟩
  · intro number after here
    rw [closeCard_desk] at here
    split at here
    · rw [← Option.some.inj here]
      exact (orderly.closings there).disconnect _
    · exact orderly.closings here
  · intro number after here
    obtain ⟨elsewhere, present⟩ := known here
    obtain ⟨before, at_desk, guard⟩ := orderly.guarded present
    simp only [closeCard_desk]
    by_cases same : after.session = card.session
    · rw [same, there, Option.some.injEq] at at_desk
      subst at_desk
      refine ⟨_, if_pos same, ?_⟩
      obtain ⟨_, second, own⟩ := orderly.guarded found
      rw [there, Option.some.injEq] at second
      subst second
      have apart : after.closing ≠ card.closing := by
        intro equal
        rw [equal, own, Option.some.injEq] at guard
        exact elsewhere guard.symm
      rw [Signal.listener?_disconnect, if_neg apart]
      exact guard
    · exact ⟨before, (if_neg same).trans at_desk, guard⟩

theorem Staffed.close (staffed : skeleton.Staffed foreign) (out : foreign id)
    (there : skeleton.desk card.session = some desk) :
    (skeleton.closeCard id card desk).Staffed fun number => foreign number ∧ number ≠ id := by
  constructor
  · intro number posts hired list listed
    rw [closeCard_posts there] at hired
    obtain ⟨own, before, present, rest⟩ := staffed.served hired list listed
    have elsewhere : posts.view list ≠ id := fun same => own (same ▸ out)
    exact ⟨fun foreign => own foreign.1, before, (if_neg elsewhere).trans present, rest⟩
  · intro number after here own
    rw [closeCard_card] at here
    split at here
    · cases here
    · rename_i elsewhere
      rw [closeCard_posts there]
      exact staffed.owned here fun foreign => own ⟨foreign, elsewhere⟩
  · rintro number ⟨out, elsewhere⟩
    obtain ⟨before, present⟩ := staffed.outside out
    exact ⟨before, (if_neg elsewhere).trans present⟩

theorem Sound.close (sound : skeleton.Sound foreign forwarders)
    (found : skeleton.card id = some card) (there : skeleton.desk card.session = some desk)
    (out : foreign id) (idle : card.active = false) :
    (skeleton.closeCard id card desk).Sound (fun number => foreign number ∧ number ≠ id)
      forwarders := by
  refine ⟨sound.seats.idle rfl fun number => ?_, sound.orderly.close found there,
    sound.staffed.close out there⟩
  by_cases same : number = id
  · right
    constructor
    · intro before here
      rw [same, found, Option.some.injEq] at here
      have fits := sound.orderly.fits found
      rw [idle, Option.isSome_eq_false_iff, Option.isNone_iff_eq_none] at fits
      rw [← here, fits]
    · intro after here
      rw [closeCard_card, if_pos same] at here
      cases here
  · exact .inl (if_neg same)

end Views

end Skeleton

end LiveList
