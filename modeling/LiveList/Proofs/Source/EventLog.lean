import LiveList.Proofs.Hub.Steps
import LiveList.Proofs.Log
import LiveList.Proofs.Queue.Steps
import LiveList.Proofs.Search.Steps
import LiveList.Proofs.Share.Steps

/-!
Event logs. Who has heard all events of an owner knows which items it lists, and never hears of an
item that came twice or of one that is not there.
-/

namespace LiveList

namespace ItemEvent

def token : ItemEvent → Nat
  | added token | removed token | updated token _ => token

def isAdded : ItemEvent → Bool
  | added _ => true
  | removed _ | updated _ _ => false

def hear (listed : List Nat) : ItemEvent → List Nat
  | added token => if token ∈ listed then listed else listed ++ [token]
  | removed token => listed.filter (· ≠ token)
  | updated _ _ => listed

def replay (log : List ItemEvent) : List Nat := log.foldl hear []

def additions (log : List ItemEvent) : Nat := log.countP isAdded

/-- Whether an event makes sense after others: an item that comes was never heard of, and one that
goes or changes is there. -/
def Lawful (past : List ItemEvent) : ItemEvent → Prop
  | added token => ∀ earlier ∈ past, earlier.token ≠ token
  | removed token | updated token _ => token ∈ replay past

end ItemEvent

open ItemEvent

/-- A log that tells what became of a catalog from its start. -/
structure Chronicle {Item : Type} (key : Item → Nat) (catalog : Catalog Item)
    (log : List ItemEvent) : Prop where
  sound : catalog.Sound key
  replayed : replay log = catalog.tokens
  lawful : ∀ past event rest, log = past ++ event :: rest → event.Lawful past
  given : ∀ event ∈ log, event.token < catalog.nextToken
  counted : catalog.nextToken = additions log + 1

namespace Chronicle

variable {Item : Type} {key : Item → Nat} {edits : Item → Item → List PropertySet → Prop}
  {catalog after : Catalog Item} {log events : List ItemEvent}

theorem start : Chronicle key ({} : Catalog Item) [] := by
  refine ⟨.start, rfl, ?_, by simp, rfl⟩
  intro past event rest split
  simp at split

theorem mem_replay (chronicle : Chronicle key catalog log) {token : Nat}
    (listed : token ∈ catalog.tokens) : token ∈ replay log := by
  rw [chronicle.replayed]
  exact listed

theorem concat (chronicle : Chronicle key catalog log) {event : ItemEvent}
    (lawful : event.Lawful log) (sound : after.Sound key)
    (heard : hear catalog.tokens event = after.tokens)
    (given : event.token < after.nextToken)
    (counted : after.nextToken = catalog.nextToken + additions [event]) :
    Chronicle key after (log ++ [event]) := by
  refine ⟨sound, ?_, ?_, ?_, ?_⟩
  · rw [replay, List.foldl_append, List.foldl_cons, List.foldl_nil]
    exact (congrArg (hear · event) chronicle.replayed).trans heard
  · intro past other rest split
    rcases Log.of_concat split with ⟨same, here, _⟩ | ⟨since, earlier, _⟩
    · rw [← same, ← here]
      exact lawful
    · exact chronicle.lawful past other since earlier
  · intro other member
    rcases List.mem_append.mp member with old | new
    · have below := chronicle.given other old
      omega
    · rw [List.mem_singleton.mp new]
      exact given
  · rw [counted, chronicle.counted, additions, additions, additions, List.countP_append]
    omega

theorem add (chronicle : Chronicle key catalog log) {item : Item}
    (named : key item = catalog.nextToken) :
    Chronicle key (catalog.add item) (log ++ [.added catalog.nextToken]) := by
  have sound := chronicle.sound
  refine chronicle.concat ?_ (sound.add named) ?_ (Nat.lt_succ_self _) rfl
  · intro earlier member same
    have below := chronicle.given earlier member
    omega
  · rw [hear, if_neg sound.fresh, Catalog.tokens_add]

theorem drop (chronicle : Chronicle key catalog log) {token : Nat}
    (listed : token ∈ catalog.tokens) :
    Chronicle key (catalog.drop token) (log ++ [.removed token]) := by
  have sound := chronicle.sound
  refine chronicle.concat (chronicle.mem_replay listed) (sound.drops [token])
    (Catalog.tokens_drop ..).symm ?_ ?_
  · rw [Catalog.nextToken_drop]
    exact sound.given token listed
  · exact Catalog.nextToken_drop ..

theorem drops (chronicle : Chronicle key catalog log) {tokens : List Nat} (once : tokens.Nodup)
    (listed : ∀ token ∈ tokens, token ∈ catalog.tokens) :
    Chronicle key (tokens.foldl Catalog.drop catalog) (log ++ tokens.map .removed) := by
  induction tokens generalizing catalog log with
  | nil => simpa using chronicle
  | cons token rest ih =>
      have apart := List.nodup_cons.mp once
      have first := chronicle.drop (listed token List.mem_cons_self)
      have later := ih first apart.2 fun other member => by
        have elsewhere : other ≠ token := fun same => apart.1 (same ▸ member)
        rw [Catalog.tokens_drop, List.mem_filter]
        exact ⟨listed other (List.mem_cons_of_mem _ member), by simpa using elsewhere⟩
      rwa [List.append_assoc] at later

/-- Reports of changes add nothing to what is known of the tokens. -/
theorem reported (chronicle : Chronicle key catalog log)
    (about : ∀ event ∈ events, ∃ token changed,
      event = .updated token changed ∧ token ∈ catalog.tokens) :
    Chronicle key catalog (log ++ events) := by
  induction events generalizing log with
  | nil => simpa using chronicle
  | cons event rest ih =>
      obtain ⟨token, changed, rfl, listed⟩ := about _ List.mem_cons_self
      have first : Chronicle key catalog (log ++ [.updated token changed]) :=
        chronicle.concat (chronicle.mem_replay listed) chronicle.sound rfl
          (chronicle.sound.given token listed) rfl
      have later := ih first fun other member => about other (List.mem_cons_of_mem _ member)
      rwa [List.append_assoc] at later

theorem edited (chronicle : Chronicle key catalog log) (sound : after.Sound key)
    (tokens : after.tokens = catalog.tokens) (next : after.nextToken = catalog.nextToken) :
    Chronicle key after log :=
  ⟨sound, tokens ▸ chronicle.replayed, chronicle.lawful, next ▸ chronicle.given,
    next ▸ chronicle.counted⟩

theorem step (chronicle : Chronicle key catalog log)
    (step : Catalog.Step key edits catalog events after) : Chronicle key after (log ++ events) := by
  have sound := step.sound chronicle.sound
  cases step with
  | rest => simpa using chronicle
  | add item named => exact chronicle.add named
  | drop tokens listed =>
      exact chronicle.drops (listed.nodup chronicle.sound.distinct) listed.subset
  | edit tokens listed change tell edited =>
      have told : ∀ event ∈ tokens.flatMap (catalog.told tell), ∃ token changed,
          event = .updated token changed ∧ token ∈ catalog.tokens := by
        intro event member
        obtain ⟨token, chosen, about⟩ := List.mem_flatMap.mp member
        obtain ⟨changed, _, rfl⟩ := List.mem_map.mp about
        exact ⟨token, changed, rfl, listed.subset chosen⟩
      exact (chronicle.reported told).edited sound (Catalog.tokens_modifyEach ..)
        (Catalog.nextToken_modifyEach ..)

theorem run {keeper : Keeper} {edits : keeper.Item → keeper.Item → List PropertySet → Prop}
    (steps : keeper.Steps edits) (operations : List keeper.Operation) :
    Chronicle keeper.handler.key (keeper.listed (keeper.run operations).owner)
      (keeper.run operations).log := by
  refine Keeper.run_induction
    (fun history => Chronicle _ (keeper.listed history.owner) history.log) ?_ ?_ _
  · rw [steps.start]
    exact .start
  · intro history operation chronicle
    exact chronicle.step (steps.step chronicle.sound operation)

end Chronicle

inductive OwnerName where
  | queue
  | share
  | hubs
  | search
  deriving DecidableEq, Repr

namespace OwnerName

def keeper : OwnerName → Keeper
  | queue => Queue.keeper
  | share => Share.keeper
  | hubs => HubList.keeper
  | search => Search.keeper

def edits : (name : OwnerName) → name.keeper.Item → name.keeper.Item → List PropertySet → Prop
  | queue => Bundle.Edit
  | share => ShareRoot.Edit
  | hubs => FavoriteHub.Edit
  | search => SearchResult.Edit

theorem keeper_steps : (name : OwnerName) → name.keeper.Steps name.edits
  | queue => Queue.keeper_steps
  | share => Share.keeper_steps
  | hubs => HubList.keeper_steps
  | search => Search.keeper_steps

end OwnerName

structure FaithfulLog (keeper : Keeper) (history : keeper.History) : Prop where
  /-- The log tells which items are listed. -/
  replayed : replay history.log =
    (keeper.listed history.owner).items.map keeper.handler.key
  lawful : ∀ past event rest, history.log = past ++ event :: rest → event.Lawful past
  /-- No token is greater than the number of items that ever came. -/
  numbered : ∀ event ∈ history.log, event.token ≤ additions history.log
  /-- What is refused is not heard of. -/
  refused : ∀ operation error,
    (keeper.operate history.owner operation).result = .error error →
      (keeper.perform history operation) = history

/-- After every sequence of operations, the log of an owner is faithful. -/
theorem log_faithful (name : OwnerName) (operations : List name.keeper.Operation) :
    FaithfulLog name.keeper (name.keeper.run operations) := by
  have steps := name.keeper_steps
  have chronicle := Chronicle.run steps operations
  refine ⟨?_, chronicle.lawful, ?_, ?_⟩
  · rw [chronicle.sound.items_keys]
    exact chronicle.replayed
  · intro event member
    have below := chronicle.given event member
    have counted := chronicle.counted
    omega
  · intro operation error refusal
    obtain ⟨owner, events⟩ := steps.refused refusal
    simp [Keeper.perform, owner, events]

end LiveList
