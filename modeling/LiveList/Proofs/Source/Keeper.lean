import LiveList.Handler
import LiveList.Proofs.Outcome
import LiveList.Proofs.Source.Step

/-!
Keepers: owners of items as their operations make them, from nothing. What they report goes to a
log that is never shortened.
-/

namespace LiveList

section Settled

variable {Owner Result Error : Type}

/-- An operation as a whole. If it is refused, nothing changes and nothing is reported. -/
def Published.settled (owner : Owner) (outcome : Except Error (Published Owner Result)) :
    Published Owner (Except Error Unit) :=
  match outcome with
  | .ok done => done.respond (.ok ())
  | .error error => .unchanged owner (.error error)

theorem Published.settled_error {owner : Owner} {outcome : Except Error (Published Owner Result)}
    {error : Error} (refused : (settled owner outcome).result = .error error) :
    (settled owner outcome).owner = owner ∧ (settled owner outcome).events = [] := by
  cases outcome with
  | ok done => cases refused
  | error _ => exact ⟨rfl, rfl⟩

/-- What holds of the owner before an operation holds after it, if a success keeps it. -/
theorem Published.settled_keeps {Holds : Owner → Prop} {owner : Owner}
    {outcome : Except Error (Published Owner Result)} (holds : Holds owner)
    (kept : ∀ {done}, outcome = .ok done → Holds done.owner) :
    Holds (settled owner outcome).owner := by
  cases outcome with
  | ok done => exact kept rfl
  | error _ => exact holds

theorem Published.settled_ok_iff {owner : Owner} {outcome : Except Error (Published Owner Result)} :
    (settled owner outcome).result = .ok () ↔ ∃ done, outcome = .ok done := by
  cases outcome with
  | ok done => exact ⟨fun _ => ⟨done, rfl⟩, fun _ => rfl⟩
  | error _ => exact ⟨nofun, nofun⟩

section Step

variable {Item : Type} {key : Item → Nat} {edits : Item → Item → List PropertySet → Prop}
  {catalog : Catalog Item} {outcome : Except Error (Published (Catalog Item) Result)}

/-- An operation is a step if it is one whenever it is not refused. -/
theorem Catalog.settled_step
    (step : ∀ {done}, outcome = .ok done → Step key edits catalog done.events done.owner) :
    Step key edits catalog (Published.settled catalog outcome).events
      (Published.settled catalog outcome).owner := by
  cases outcome with
  | ok done => exact step rfl
  | error _ => exact .rest

theorem Catalog.settled_revision
    (revision : ∀ {done}, outcome = .ok done → Revision key edits catalog done.events done.owner) :
    Revision key edits catalog (Published.settled catalog outcome).events
      (Published.settled catalog outcome).owner := by
  cases outcome with
  | ok done => exact revision rfl
  | error _ => exact .rest

end Step

end Settled

structure Keeper where
  Item : Type
  Owner : Type
  Operation : Type
  Error : Type
  start : Owner
  listed : Owner → Catalog Item
  handler : Handler Item
  operate : Owner → Operation → Published Owner (Except Error Unit)

namespace Keeper

structure History (keeper : Keeper) where
  owner : keeper.Owner
  log : List ItemEvent

def perform (keeper : Keeper) (history : keeper.History) (operation : keeper.Operation) :
    keeper.History :=
  let done := keeper.operate history.owner operation
  ⟨done.owner, history.log ++ done.events⟩

def run (keeper : Keeper) (operations : List keeper.Operation) : keeper.History :=
  operations.foldl keeper.perform ⟨keeper.start, []⟩

def after (keeper : Keeper) (operations : List keeper.Operation) : Catalog keeper.Item :=
  keeper.listed (keeper.run operations).owner

def reported (keeper : Keeper) (operations : List keeper.Operation)
    (operation : keeper.Operation) : List ItemEvent :=
  (keeper.operate (keeper.run operations).owner operation).events

variable {keeper : Keeper}

theorem run_concat (operations : List keeper.Operation) (operation : keeper.Operation) :
    keeper.run (operations ++ [operation]) = keeper.perform (keeper.run operations) operation := by
  rw [run, List.foldl_append]
  rfl

theorem after_concat (operations : List keeper.Operation) (operation : keeper.Operation) :
    keeper.after (operations ++ [operation]) =
      keeper.listed (keeper.operate (keeper.run operations).owner operation).owner := by
  rw [after, run_concat]
  rfl

/-- What holds at the start and is kept by operations of a kind holds of every history of them. -/
theorem run_within {fits : keeper.Operation → Prop} (Holds : keeper.History → Prop)
    (start : Holds ⟨keeper.start, []⟩)
    (step : ∀ history operation, fits operation → Holds history →
      Holds (keeper.perform history operation))
    {operations : List keeper.Operation} (all : ∀ operation ∈ operations, fits operation) :
    Holds (keeper.run operations) := by
  have run (history : keeper.History) (holds : Holds history) :
      Holds (operations.foldl keeper.perform history) := by
    induction operations generalizing history with
    | nil => exact holds
    | cons operation rest ih =>
        obtain ⟨first, others⟩ := List.forall_mem_cons.mp all
        exact ih others _ (step history operation first holds)
  exact run _ start

theorem run_induction (Holds : keeper.History → Prop) (start : Holds ⟨keeper.start, []⟩)
    (step : ∀ history operation, Holds history → Holds (keeper.perform history operation))
    (operations : List keeper.Operation) : Holds (keeper.run operations) :=
  run_within Holds start (fun history operation _ => step history operation)
    fun _ _ => show True from trivial

/-- Every operation of the keeper is a step of its catalog, and every refusal leaves the owner as
it is. -/
structure Steps (keeper : Keeper)
    (edits : keeper.Item → keeper.Item → List PropertySet → Prop) : Prop where
  start : keeper.listed keeper.start = {}
  step : ∀ {owner}, (keeper.listed owner).Sound keeper.handler.key → ∀ operation,
    Catalog.Step keeper.handler.key edits (keeper.listed owner)
      (keeper.operate owner operation).events
      (keeper.listed (keeper.operate owner operation).owner)
  refused : ∀ {owner operation error},
    (keeper.operate owner operation).result = .error error →
      (keeper.operate owner operation).owner = owner ∧
        (keeper.operate owner operation).events = []

variable {edits : keeper.Item → keeper.Item → List PropertySet → Prop}

theorem Steps.sound (steps : keeper.Steps edits) (operations : List keeper.Operation) :
    (keeper.after operations).Sound keeper.handler.key := by
  refine run_induction (fun history => (keeper.listed history.owner).Sound _) ?_ ?_ _
  · rw [steps.start]
    exact .start
  · intro history operation sound
    exact (steps.step sound operation).sound sound

/-- What holds of nothing and is kept by operations of a kind holds of all that is listed after
them. -/
theorem Steps.keeps_within (steps : keeper.Steps edits) {fits : keeper.Operation → Prop}
    {Holds : Catalog keeper.Item → Prop} (start : Holds {})
    (step : ∀ {owner}, (keeper.listed owner).Sound keeper.handler.key →
      Holds (keeper.listed owner) → ∀ operation, fits operation →
        Holds (keeper.listed (keeper.operate owner operation).owner))
    {operations : List keeper.Operation} (all : ∀ operation ∈ operations, fits operation) :
    Holds (keeper.after operations) := by
  have both : (keeper.after operations).Sound keeper.handler.key ∧ Holds (keeper.after operations) := by
    refine run_within (fun history =>
      (keeper.listed history.owner).Sound _ ∧ Holds (keeper.listed history.owner)) ?_ ?_ all
    · rw [steps.start]
      exact ⟨.start, start⟩
    · rintro history operation fit ⟨sound, holds⟩
      exact ⟨(steps.step sound operation).sound sound, step sound holds operation fit⟩
  exact both.2

theorem Steps.keeps (steps : keeper.Steps edits) {Holds : Catalog keeper.Item → Prop}
    (start : Holds {})
    (step : ∀ {owner}, (keeper.listed owner).Sound keeper.handler.key →
      Holds (keeper.listed owner) → ∀ operation,
        Holds (keeper.listed (keeper.operate owner operation).owner))
    (operations : List keeper.Operation) : Holds (keeper.after operations) :=
  steps.keeps_within start (fun sound holds operation _ => step sound holds operation)
    fun _ _ => show True from trivial

/-- An item that stays is left alone without a report, or edited and reported as the edit says. -/
theorem Steps.stays (steps : keeper.Steps edits) {operations : List keeper.Operation}
    {operation : keeper.Operation} {token : Nat} {old new : keeper.Item}
    (before : (keeper.after operations).get? token = some old)
    (still : (keeper.after (operations ++ [operation])).get? token = some new) :
    old = new ∧ ItemEvent.reports token (keeper.reported operations operation) = [] ∨
      edits old new (ItemEvent.reports token (keeper.reported operations operation)) := by
  have sound := steps.sound operations
  rw [after_concat] at still
  exact (steps.step sound operation).stays sound before still

end Keeper

end LiveList
