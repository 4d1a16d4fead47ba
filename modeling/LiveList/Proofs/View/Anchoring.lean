import LiveList.Proofs.View.Placement
import LiveList.Proofs.View.Replica
import LiveList.Proofs.View.Scene
import LiveList.Proofs.View.Sound
import LiveList.Proofs.View.Ticking
import Mathlib.Data.List.Nodup

/-!
The anchor of the window. Rows come and go around the start of the window, and the start moves along
with them, so that no row that stays is carried across it. Only at the end of a batch is the start
kept inside the list, and how far it moved is told with where it is.
-/

namespace LiveList

variable {Ref : Type}

namespace FlushState

def above (state : FlushState Ref) : List Ref := state.rows.matching.take state.start

def below (state : FlushState Ref) : List Ref := state.rows.matching.drop state.start

/-- The rows of some kind stay on their side of the start of the window, and in their order. -/
structure Anchored (kept : Ref → Bool) (before after : FlushState Ref) : Prop where
  above : (before.above.filter kept).Sublist after.above
  below : (before.below.filter kept).Sublist after.below

variable {context : FlushContext Ref} {state before middle after : FlushState Ref}
  {kept : Ref → Bool}

theorem Anchored.still (matching : after.rows.matching = before.rows.matching)
    (start : after.start = before.start) : Anchored kept before after := by
  have above : after.above = before.above := by rw [FlushState.above, matching, start]; rfl
  have below : after.below = before.below := by rw [FlushState.below, matching, start]; rfl
  exact ⟨above ▸ List.filter_sublist, below ▸ List.filter_sublist⟩

theorem Anchored.trans (first : Anchored kept before middle) (second : Anchored kept middle after) :
    Anchored kept before after := by
  have twice (rows : List Ref) : (rows.filter kept).filter kept = rows.filter kept := by
    rw [List.filter_filter]
    simp
  constructor
  · rw [← twice]
    exact (first.above.filter kept).trans second.above
  · rw [← twice]
    exact (first.below.filter kept).trans second.below

/-- A row that is put in at the start or before it counts to the rows before the start, and none of
the others changes sides. -/
theorem sides_insert (front back : List Ref) (item : Ref) (start : Nat) :
    let moved := if front.length ≤ start then start + 1 else start
    ((front ++ back).take start).Sublist ((front ++ item :: back).take moved) ∧
      ((front ++ back).drop start).Sublist ((front ++ item :: back).drop moved) := by
  intro moved
  by_cases reached : front.length ≤ start
  · -- All of the front is before the start, and the start goes on past the row.
    have past : moved - front.length = (start - front.length) + 1 := by
      simp only [moved, if_pos reached]
      omega
    have whole : front.length ≤ moved := by omega
    rw [List.take_append, List.take_append, List.drop_append, List.drop_append, past,
      List.take_of_length_le reached, List.take_of_length_le whole,
      List.drop_of_length_le reached, List.drop_of_length_le whole]
    exact ⟨(List.Sublist.refl front).append (List.sublist_cons_self item _), .refl _⟩
  · -- The start is inside the front, and the row comes somewhere after it.
    have short : moved - front.length = 0 ∧ start - front.length = 0 := by
      simp only [moved, if_neg reached]
      omega
    rw [List.take_append, List.take_append, List.drop_append, List.drop_append, short.1, short.2]
    simp only [moved, if_neg reached]
    exact ⟨.refl _, (List.Sublist.refl _).append (List.sublist_cons_self item back)⟩

/-- A row that is taken out before the start takes the start back by one, and none of the others
changes sides. -/
theorem sides_erase (front back : List Ref) {item : Ref} (gone : kept item = false) (start : Nat) :
    let moved := if front.length < start then start - 1 else start
    (((front ++ item :: back).take start).filter kept).Sublist ((front ++ back).take moved) ∧
      (((front ++ item :: back).drop start).filter kept).Sublist ((front ++ back).drop moved) := by
  intro moved
  by_cases passed : front.length < start
  · obtain ⟨more, rfl⟩ : ∃ more, start = front.length + (more + 1) :=
      ⟨start - front.length - 1, by omega⟩
    have back : moved = front.length + more := by
      simp only [moved, if_pos passed]
      omega
    rw [back, List.take_length_add_append, List.take_length_add_append,
      List.drop_length_add_append, List.drop_length_add_append, List.take_succ_cons,
      List.drop_succ_cons, List.filter_append, List.filter_cons_of_neg (by simp [gone])]
    exact ⟨List.filter_sublist.append List.filter_sublist, List.filter_sublist⟩
  · have short : start - front.length = 0 := by omega
    simp only [moved, if_neg passed]
    rw [List.take_append, List.take_append, List.drop_append, List.drop_append, short]
    simp only [List.take_zero, List.append_nil, List.drop_zero, List.filter_append,
      List.filter_cons_of_neg (show ¬ kept item = true by simp [gone])]
    exact ⟨List.filter_sublist, List.filter_sublist.append List.filter_sublist⟩

theorem insertMatching_anchored (context : FlushContext Ref) (item : Ref) (state : FlushState Ref) :
    Anchored kept state (state.insertMatching context item) := by
  have inside := View.insertionPoint_le context.order item state.rows.matching
  have length : (state.rows.matching.take
      (View.insertionPoint context.order item state.rows.matching)).length =
        View.insertionPoint context.order item state.rows.matching := by
    rw [List.length_take]
    omega
  have sides := sides_insert
    (state.rows.matching.take (View.insertionPoint context.order item state.rows.matching))
    (state.rows.matching.drop (View.insertionPoint context.order item state.rows.matching))
    item state.start
  rw [List.take_append_drop, length, ← View.insertIdx_eq_append _ _ _ inside] at sides
  exact ⟨List.filter_sublist.trans sides.1, List.filter_sublist.trans sides.2⟩

theorem removeMatching_anchored (context : FlushContext Ref) (state : FlushState Ref) {k : Nat}
    (gone : ∀ row, context.handler.key row = k → kept row = false) :
    Anchored kept state (state.removeMatching context k) := by
  unfold removeMatching
  split
  · dsimp only
    split
    · rename_i place found
      obtain ⟨inside, keyed, _⟩ := List.findIdx?_eq_some_iff_getElem.mp found
      have length : (state.rows.matching.take place).length = place := by
        rw [List.length_take]
        omega
      have sides := sides_erase (state.rows.matching.take place)
        (state.rows.matching.drop (place + 1)) (gone _ (by simpa using keyed)) state.start
      rw [← List.drop_eq_getElem_cons inside, List.take_append_drop, length,
        ← List.eraseIdx_eq_take_drop_succ] at sides
      exact ⟨sides.1, sides.2⟩
    · exact .still rfl rfl
  · exact .still rfl rfl

theorem applyAdd_anchored (context : FlushContext Ref) (item : Ref) (state : FlushState Ref) :
    Anchored kept state (state.applyAdd context item) := by
  let taken : FlushState Ref := { state with
    rows := (state.rows.insert (context.handler.key item) item).2 }
  have first : Anchored kept state taken := by
    refine .still ?_ rfl
    dsimp only [taken, Rows.insert]
    split <;> rfl
  unfold applyAdd
  dsimp only
  split
  · exact first.trans (insertMatching_anchored context item taken)
  · exact first

theorem applyRemove_anchored (context : FlushContext Ref) (state : FlushState Ref) {item : Ref}
    (gone : ∀ row, context.handler.key row = context.handler.key item → kept row = false) :
    Anchored kept state (state.applyRemove context item) := by
  unfold applyRemove
  dsimp only
  split
  · exact .still rfl rfl
  · rename_i arrival _
    let forgotten : FlushState Ref := { state with
      rows := { state.rows with
        index := Assoc.erase (context.handler.key item) state.rows.index
        items := Assoc.erase arrival state.rows.items } }
    have first : Anchored kept state forgotten := .still rfl rfl
    exact first.trans (removeMatching_anchored context forgotten gone)

theorem applyUpdate_anchored (context : FlushContext Ref) (state : FlushState Ref) {item : Ref}
    (changed : PropertySet)
    (gone : context.passes item = false → ∀ row,
      context.handler.key row = context.handler.key item → kept row = false) :
    Anchored kept state (state.applyUpdate context item changed) := by
  unfold applyUpdate
  dsimp only
  split
  · exact .still rfl rfl
  · rename_i arrival _
    let stored : FlushState Ref := { state with
      rows := { state.rows with items := Assoc.set arrival item state.rows.items } }
    have first : Anchored kept state stored := .still rfl rfl
    split
    · split
      · exact .still rfl rfl
      · rename_i stays
        have out := gone (by simpa [FlushContext.passes] using stays)
        exact first.trans (removeMatching_anchored context stored out)
    · split
      · exact first.trans (insertMatching_anchored context item stored)
      · exact first

theorem apply_anchored (context : FlushContext Ref) (state : FlushState Ref) {change : Change Ref}
    (gone : change.leaves context.passes = true → ∀ row,
      context.handler.key row = context.handler.key change.item → kept row = false) :
    Anchored kept state (state.apply context change) := by
  unfold apply
  unfold Change.leaves at gone
  cases kind : change.kind with
  | add =>
      rw [kind] at gone
      dsimp only
      split
      · rename_i replaces
        exact (applyRemove_anchored context state (gone replaces)).trans
          (applyAdd_anchored context change.item _)
      · exact applyAdd_anchored context change.item state
  | remove =>
      rw [kind] at gone
      exact applyRemove_anchored context state (gone rfl)
  | update =>
      rw [kind] at gone
      exact applyUpdate_anchored context state change.changed fun out =>
        gone (by simp [out])

/-- No row that stays is carried across the start of the window, whatever comes and goes in a batch.
-/
theorem foldl_anchored (context : FlushContext Ref) (state : FlushState Ref)
    (changes : List (Change Ref)) :
    Anchored (stays context.handler.key context.passes changes) state
      (changes.foldl (apply context) state) := by
  suffices whole : ∀ kept : Ref → Bool,
      (∀ change ∈ changes, change.leaves context.passes = true → ∀ row,
        context.handler.key row = context.handler.key change.item → kept row = false) →
      Anchored kept state (changes.foldl (apply context) state) by
    refine whole _ fun change member leaves row same => ?_
    refine List.all_eq_false.mpr ⟨change, member, ?_⟩
    simp [leaves, same]
  intro kept gone
  induction changes generalizing state with
  | nil => exact .still rfl rfl
  | cons change rest ih =>
      have first := apply_anchored context state (gone change List.mem_cons_self)
      exact first.trans (ih _ fun other member => gone other (List.mem_cons_of_mem change member))

/-- A row that stays has one place after the batch, on the same side of the start as before. -/
theorem Anchored.place (anchored : Anchored kept before after)
    (distinct : after.rows.matching.Nodup) {row : Ref} {place : Nat}
    (found : before.rows.matching[place]? = some row) (keeps : kept row = true) :
    ∃ later, (∀ other, after.rows.matching[other]? = some row ↔ other = later) ∧
      (later < after.start ↔ place < before.start) := by
  have only {later : Nat} (there : after.rows.matching[later]? = some row) (other : Nat) :
      after.rows.matching[other]? = some row ↔ other = later := by
    constructor
    · intro also
      obtain ⟨inside, _⟩ := List.getElem?_eq_some_iff.mp also
      exact (List.getElem?_inj inside distinct).mp (also.trans there.symm)
    · rintro rfl
      exact there
  by_cases early : place < before.start
  · have member : row ∈ before.above.filter kept := by
      refine List.mem_filter.mpr ⟨List.mem_of_getElem? (i := place) ?_, keeps⟩
      rwa [FlushState.above, List.getElem?_take_of_lt early]
    obtain ⟨later, there⟩ := List.getElem?_of_mem (anchored.above.subset member)
    rw [FlushState.above, List.getElem?_take] at there
    split at there
    · rename_i inside
      exact ⟨later, only there, iff_of_true inside early⟩
    · cases there
  · have member : row ∈ before.below.filter kept := by
      refine List.mem_filter.mpr ⟨List.mem_of_getElem? (i := place - before.start) ?_, keeps⟩
      rwa [FlushState.below, List.getElem?_drop, Nat.add_sub_cancel' (Nat.le_of_not_lt early)]
    obtain ⟨past, there⟩ := List.getElem?_of_mem (anchored.below.subset member)
    rw [FlushState.below, List.getElem?_drop] at there
    exact ⟨after.start + past, only there, iff_of_false (by omega) early⟩

end FlushState

namespace ListView

/-- Where the window starts was told, unless nothing was told yet or the settings have changed
since. -/
def StartTold (view : ListView Ref) : Prop :=
  view.settings.changed = false →
    view.rows.toldStart = none ∨ view.rows.toldStart = some view.settings.rangeStart

variable {handler : Handler Ref} {source : List Ref} {view after : ListView Ref}
  {property : PropertyId} {permit : Permit Ref} {effects : List ViewEffect}

theorem StartTold.hear (told : view.StartTold) (kind : ChangeKind) (item : Ref)
    (changed : PropertySet) : (view.hear handler kind item changed).StartTold := by
  unfold StartTold
  rw [hear_settings, hear_rows]
  exact told

theorem StartTold.flush (told : view.StartTold) : (view.flush handler).view.StartTold := by
  by_cases runs : ∃ property, view.Ready property
  · obtain ⟨property, ready⟩ := runs
    rw [flush_ready handler ready]
    exact fun _ => .inr rfl
  · rw [flush_idle handler (not_exists.mp runs)]
    exact told

/-- To move the window to the top marks the settings, unless it is there. -/
theorem StartTold.toTop (told : view.StartTold) {rows : Rows Ref}
    (kept : rows.toldStart = view.rows.toldStart) :
    StartTold { view with rows, settings := view.settings.setRangeStart 0 } := by
  intro unmarked
  simp only [ViewSettings.setRangeStart, Bool.or_eq_false_iff, bne_eq_false_iff_eq] at unmarked
  have before := told unmarked.1
  rw [unmarked.2, ← kept] at before
  exact before

theorem StartTold.motion (told : view.StartTold)
    (motion : Motion handler source permit view after effects) : after.StartTold := by
  cases motion with
  | set update =>
      have marked := ViewSettings.Marked.apply view.settings update
      intro unmarked
      rw [marked.start unmarked]
      exact told (marked.kept unmarked)
  | addEmptyFilter => exact told
  | filter filters =>
      have told : StartTold { view with filters } := told
      exact told.toTop rfl
  | activate paused inactive =>
      have kept := (Rows.insertAll_kept handler view.rows source).toldStart
      cases paused <;>
      · intro unmarked
        have before := told unmarked
        rw [← kept] at before
        exact before
  | pause =>
      unfold ListView.pause
      split <;> exact told
  | unpause paused => exact told
  | flush => exact told.flush
  | stop => exact fun _ => .inl rfl
  | reload =>
      unfold ListView.reload
      split
      · exact told
      · have told : StartTold { view with changes := {} } := told
        exact told.toTop (Rows.insertAll_kept handler view.rows.clearItems source).toldStart

theorem StartTold.live (told : view.StartTold) (occasions : List (Occasion Ref)) :
    (view.live occasions).view.StartTold :=
  live_keep (fun _ => True) StartTold (fun _ _ _ _ _ _ told => told.hear _ _ _)
    (fun _ _ _ _ _ _ _ motion told => told.motion motion) told occasions fun _ _ => trivial

/-- What is told when the window that started at one row starts at another, or still at the same:
where it starts, if it is told at all, and how far it moved, just if it did. How far is never told
without where. -/
structure TellsStart (begun reported : Nat) (effects : List ViewEffect) : Prop where
  start : ∀ delta, .told delta ∈ effects → ∀ start, delta.rangeStart = some start → start = reported
  offset : ∀ delta, .told delta ∈ effects → delta.rangeOffset =
    if reported = begun then none else some ((reported : Int) - (begun : Int))
  both : ∀ delta, .told delta ∈ effects → delta.rangeOffset.isSome →
    delta.rangeStart = some reported
  moved : reported ≠ begun → ∃ delta, .told delta ∈ effects

theorem StartTold.tells (told : view.StartTold) (ready : view.Ready property) :
    TellsStart view.settings.rangeStart (view.passOffset handler property)
      (view.flush handler).effects := by
  have only (delta : Delta Nat) (member : .told delta ∈ (view.flush handler).effects) :
      delta = view.passDelta handler property := by
    rw [flush_effects handler ready] at member
    split at member
    · cases member
    · simpa using member
  refine ⟨?_, ?_, ?_, fun moved => ?_⟩
  · rintro delta member start here
    obtain rfl := only delta member
    simp only [passDelta, ifNews] at here
    split at here
    · exact (Option.some.inj here).symm
    · split at here
      · cases here
      · exact (Option.some.inj here).symm
  · rintro delta member
    obtain rfl := only delta member
    rfl
  · rintro delta member offset
    obtain rfl := only delta member
    have moved : view.passOffset handler property ≠ view.settings.rangeStart := by
      rintro same
      simp [passDelta, same] at offset
    simp only [passDelta]
    split
    · rfl
    · rename_i unmarked
      -- What was told is nothing, or the start before the move.
      rw [(view.passEnd_told handler property).2.1, ifNews, if_neg]
      rintro same
      rcases told (by simpa using unmarked) with none | some
      · rw [none] at same
        cases same
      · rw [some] at same
        exact moved (Option.some.inj same).symm
  · refine ⟨view.passDelta handler property, ?_⟩
    rw [flush_effects handler ready, if_neg]
    · exact List.mem_singleton.mpr rfl
    · simp [Delta.isEmpty, passDelta, moved]

end ListView

open ListView

def Entry.sampleShift : List (Occasion Nat) :=
  let on (event : ViewEvent Nat) : Occasion Nat := ⟨Entry.tagged fun id => id, [2, 4, 6, 8], event⟩
  [on (.acted (.configure { sortProperty := some 2, maxCount := some 2, rangeStart := some 2 })),
    on (.acted (.command .flush)), on (.heard .remove 2 []), on (.heard .add 5 []),
    on (.heard .add 7 []), on (.heard .update 6 [0])]

/-- The start moves back with the entry that goes and on with the one that comes before it. -/
example :
    let before := (({} : ListView Nat).live Entry.sampleShift).view
    let ended := before.passEnd (Entry.tagged fun id => id) 2
    ended.rows.matching = [4, 5, 6, 7, 8] ∧ ended.start = 2 := by decide +kernel

end LiveList
