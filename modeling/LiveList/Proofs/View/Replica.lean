import LiveList.Proofs.View.Acts
import LiveList.Proofs.View.Passes

/-!
The copy of a view that its reader keeps: it starts empty whenever the view is activated, and takes
over what every delta tells. After each flush of a view that is active and sorted, the copy is the
window of the view.
-/

namespace LiveList

variable {Ref : Type}

structure ReplicaRow where
  id : Nat
  position : Nat
  properties : List (String × Json)

/-- What the reader of a view knows. Nothing is known of a part that was never told. -/
structure Replica where
  rows : List ReplicaRow := []
  rangeStart : Option Nat := none
  matchingItems : Option Nat := none
  totalItems : Option Nat := none

namespace Replica

def overlay (known fields : List (String × Json)) : List (String × Json) :=
  fields.foldl (fun known field => Assoc.set field.1 field.2 known) known

def properties (replica : Replica) (id : Nat) : List (String × Json) :=
  ((replica.rows.find? (·.id == id)).map (·.properties)).getD []

/-- Takes over a row that was told. What is told without properties keeps those it had. -/
def receive (replica : Replica) (row : DeltaRow Nat) : ReplicaRow :=
  { id := row.id
    position := row.position
    properties := overlay (replica.properties row.id) (row.properties.getD []) }

def learn (replica : Replica) (delta : Delta Nat) : Replica :=
  { rows := (delta.rows.map fun rows => rows.map replica.receive).getD replica.rows
    rangeStart := delta.rangeStart.or replica.rangeStart
    matchingItems := delta.matchingItems.or replica.matchingItems
    totalItems := delta.totalItems.or replica.totalItems }

def follow (replica : Replica) : ViewEffect → Replica
  | .activated true => {}
  | .told delta => replica.learn delta
  | .join | .leave | .activated false => replica

def followAll (replica : Replica) (effects : List ViewEffect) : Replica :=
  effects.foldl follow replica

theorem learn_empty (replica : Replica) {delta : Delta Nat} (empty : delta.isEmpty = true) :
    replica.learn delta = replica := by
  simp only [Delta.isEmpty, Bool.and_eq_true, Option.isNone_iff_eq_none] at empty
  obtain ⟨⟨⟨⟨rows, start⟩, _⟩, matching⟩, total⟩ := empty
  simp [learn, rows, start, matching, total]

theorem or_ifNews (told : Option Nat) (value : Nat) :
    (ListView.ifNews told value).or told = some value := by
  unfold ListView.ifNews
  split
  · rename_i same
    simp [same]
  · rfl

structure Told (replica : Replica) (rows : Rows Ref) : Prop where
  ids : replica.rows.map (·.id) = rows.window
  positions : replica.rows.map (·.position) = List.range replica.rows.length
  start : replica.rangeStart = rows.toldStart
  matching : replica.matchingItems = rows.toldMatching
  total : replica.totalItems = rows.toldTotal

end Replica

namespace ListView

def shown (view : ListView Ref) : List Ref :=
  view.page view.settings.rangeStart
    (min (view.settings.rangeStart + view.settings.maxCount) view.rows.matching.length)

theorem page_eq (rows : List Ref) (start count : Nat) :
    (rows.take (min (start + count) rows.length)).drop start = (rows.drop start).take count := by
  rw [List.take_drop]
  congr 1
  rw [List.take_eq_take_iff]
  omega

structure Current (key : Ref → Nat) (view : ListView Ref) : Prop where
  window : view.rows.window = view.shown.map key
  start : view.rows.toldStart = some view.settings.rangeStart
  inside : view.settings.rangeStart < view.rows.matching.length ∨ view.settings.rangeStart = 0
  matching : view.rows.toldMatching = some view.rows.matching.length
  total : view.rows.toldTotal = some view.rows.items.length

/-- The copy has what the view shows: the rows in order, where they start, and how many there are. -/
structure Mirrors (key : Ref → Nat) (view : ListView Ref) (replica : Replica) : Prop where
  ids : replica.rows.map (·.id) = view.shown.map key
  visible : replica.rows.map (·.id) = view.rows.window
  positions : replica.rows.map (·.position) = List.range replica.rows.length
  start : replica.rangeStart = some view.settings.rangeStart
  inside : view.settings.rangeStart < view.rows.matching.length ∨ view.settings.rangeStart = 0
  matching : replica.matchingItems = some view.rows.matching.length
  total : replica.totalItems = some view.rows.items.length

/-- The copy of a view that is active at all knows what was told last, and that is what the view
shows unless something is marked as new. -/
structure Followed (key : Ref → Nat) (view : ListView Ref) (replica : Replica) : Prop where
  silent : view.phase = .inactive → ({} : Replica).Told view.rows
  told : view.phase ≠ .inactive → replica.Told view.rows
  current : view.phase ≠ .inactive → view.rows.unsorted = false → view.settings.changed = false →
    view.Current key

variable {key : Ref → Nat} {handler : Handler Ref} {source : List Ref} {view after : ListView Ref}
  {replica : Replica} {property : PropertyId} {permit : Permit Ref} {effects : List ViewEffect}

theorem Motions.follow (holds : ListView Ref → Replica → Prop)
    (kept : ∀ before after replica effects, Motion handler source permit before after effects →
      holds before replica → holds after (replica.followAll effects))
    (motions : Motions handler source permit view after effects) (start : holds view replica) :
    holds after (replica.followAll effects) := by
  induction motions generalizing replica with
  | rest _ => exact start
  | next motion _ ih =>
      have later := ih (kept _ _ _ _ motion start)
      unfold Replica.followAll at later ⊢
      rwa [List.foldl_append]

theorem Followed.mirrors (followed : view.Followed key replica) (active : view.phase = .active)
    (quiet : view.hasNews = false) : view.Mirrors key replica := by
  simp only [hasNews, Bool.or_eq_false_iff] at quiet
  have there : view.phase ≠ .inactive := by simp [active]
  have told := followed.told there
  have current := followed.current there quiet.2 quiet.1.2
  exact {
    ids := told.ids.trans current.window
    visible := told.ids
    positions := told.positions
    start := told.start.trans current.start
    inside := current.inside
    matching := told.matching.trans current.matching
    total := told.total.trans current.total }

end ListView

structure ViewSettings.Marked (before after : ViewSettings) : Prop where
  kept : after.changed = false → before.changed = false
  start : after.changed = false → after.rangeStart = before.rangeStart
  count : after.changed = false → after.maxCount = before.maxCount
  property : after.changed = false → after.sortProperty = before.sortProperty
  ascending : after.changed = false → after.sortAscending = before.sortAscending

namespace ViewSettings.Marked

variable {first second third : ViewSettings}

theorem refl (settings : ViewSettings) : Marked settings settings :=
  ⟨id, fun _ => rfl, fun _ => rfl, fun _ => rfl, fun _ => rfl⟩

theorem trans (left : Marked first second) (right : Marked second third) : Marked first third where
  kept still := left.kept (right.kept still)
  start still := (right.start still).trans (left.start (right.kept still))
  count still := (right.count still).trans (left.count (right.kept still))
  property still := (right.property still).trans (left.property (right.kept still))
  ascending still := (right.ascending still).trans (left.ascending (right.kept still))

theorem given {Value : Type} (settings : ViewSettings) (value : Option Value)
    {set : ViewSettings → Value → ViewSettings} (marks : ∀ value, Marked settings (set settings value)) :
    Marked settings (settings.applyGiven value set) := by
  cases value with
  | none => exact refl settings
  | some value => exact marks value

theorem apply (settings : ViewSettings) (update : SettingsUpdate) :
    Marked settings (settings.apply update) := by
  dsimp only [ViewSettings.apply]
  refine trans (given settings update.rangeStart ?_) (trans (given _ update.maxCount ?_)
    (trans (given _ update.sortProperty ?_) (trans (given _ update.sortAscending ?_)
      (given _ update.paused ?_))))
  all_goals
    intro value
    constructor <;>
      simp +contextual [setRangeStart, setMaxCount, setSortProperty, setSortAscending]

end ViewSettings.Marked

end LiveList
