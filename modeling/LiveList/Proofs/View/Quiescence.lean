import LiveList.Proofs.View.Scene
import LiveList.Proofs.View.Ticking

/-!
Rest of a view. A flush uses up whatever makes a view flush, so another one right after it finds
nothing to do. A view that cannot be flushed keeps everything that waits, however often it is tried.
-/

namespace LiveList

variable {Ref : Type}

namespace ListView

variable {handler : Handler Ref} {source : List Ref} {property : PropertyId}
  {view before : ListView Ref}

/-- A flush would tell nothing and leave the view as it is, however its items are read by then. -/
def AtRest (view : ListView Ref) : Prop :=
  ∀ (handler : Handler Ref) (source : List Ref),
    view.flushed handler = (view, none) ∧
      view.perform handler source .flush = ({ view }, .flushed false)

theorem AtRest.of_idle (idle : ∀ property, ¬ view.Ready property) : view.AtRest := by
  intro handler source
  refine ⟨flushed_idle handler idle, ?_⟩
  simp only [perform, flush_idle handler idle]
  rfl

theorem AtRest.of_quiet (quiet : view.hasNews = false) : view.AtRest := by
  refine .of_idle fun property ready => ?_
  have news := ready.news
  rw [quiet] at news
  cases news

/-- A view in a phase without flushes, or without an order, rests even with changes waiting. -/
theorem AtRest.of_unready (unready : view.phase ≠ .active ∨ view.settings.sortProperty = none) :
    view.AtRest := by
  refine .of_idle fun property ready => ?_
  rcases unready with away | unsorted
  · exact away ready.active
  · have sorted := ready.sorted
    rw [unsorted] at sorted
    cases sorted

theorem flush_atRest (handler : Handler Ref) (view : ListView Ref) :
    (view.flush handler).view.AtRest := by
  by_cases runs : ∃ property, view.Ready property
  · obtain ⟨property, ready⟩ := runs
    rw [flush_ready handler ready]
    exact .of_quiet (passed_quiet handler)
  · rw [flush_idle handler (not_exists.mp runs)]
    exact .of_idle (not_exists.mp runs)

theorem AtRest.meet (rest : view.AtRest) {occasion : Occasion Ref}
    (call : occasion.event = .acted (.command .flush)) : view.meet occasion = { view } := by
  unfold ListView.meet
  rw [call]
  exact congrArg Prod.fst (rest occasion.handler occasion.source).2

/-- Nothing but other events can end the rest of a view. -/
theorem AtRest.live (rest : view.AtRest) {calls : List (Occasion Ref)}
    (only : ∀ call ∈ calls, call.event = .acted (.command .flush)) :
    view.live calls = { view } := by
  induction calls with
  | nil => rfl
  | cons call calls ih =>
      have later : view.live calls = { view } :=
        ih fun other member => only other (List.mem_cons_of_mem call member)
      simp only [ListView.live, rest.meet (only call List.mem_cons_self), later, List.append_nil]

end ListView

/-- After a flush all further flushes do nothing, until something else happens to the view. A view
that is inactive, paused or without a property to sort by is left alone by every flush, with all
that waits in it. -/
theorem flush_quiescent (view : ListView Ref) (handler : Handler Ref) (calls : List (Occasion Ref))
    (only : ∀ call ∈ calls, call.event = .acted (.command .flush)) :
    ((view.flush handler).view.AtRest ∧
        (view.flush handler).view.live calls = { view := (view.flush handler).view }) ∧
      (view.phase ≠ .active ∨ view.settings.sortProperty = none →
        view.AtRest ∧ view.live calls = { view }) := by
  have rest : (view.flush handler).view.AtRest := ListView.flush_atRest handler view
  refine ⟨⟨rest, rest.live only⟩, fun unready => ?_⟩
  have rest : view.AtRest := .of_unready unready
  exact ⟨rest, rest.live only⟩

def Entry.sampleWaiting (paused : Bool) : ListView Nat :=
  let on (event : ViewEvent Nat) : Occasion Nat := ⟨Entry.tagged fun id => id, [1, 2, 3], event⟩
  (({} : ListView Nat).live
    [on (.acted (.configure { sortProperty := some 2, maxCount := some 2, paused := some paused })),
      on (.heard .update 1 [0])]).view

def Entry.sampleCalls : List (Occasion Nat) :=
  [7, 3, 9].map fun tag => ⟨Entry.tagged fun id => tag - id, [3, 1], .acted (.command .flush)⟩

theorem sampleCalls_quiescent :
    let handler := Entry.tagged fun id => id
    let flushed := ((Entry.sampleWaiting false).flush handler).view
    let paused := Entry.sampleWaiting true
    (flushed.AtRest ∧ flushed.live Entry.sampleCalls = { view := flushed }) ∧
      paused.changes.count = 1 ∧ paused.AtRest ∧
        paused.live Entry.sampleCalls = { view := paused } := by
  intro handler flushed paused
  have only : ∀ call ∈ Entry.sampleCalls, call.event = .acted (.command .flush) := by
    simp [Entry.sampleCalls]
  have stopped : paused.phase ≠ .active := by decide +kernel
  exact ⟨(flush_quiescent (Entry.sampleWaiting false) handler Entry.sampleCalls only).1,
    by decide +kernel,
    (flush_quiescent paused handler Entry.sampleCalls only).2 (.inl stopped)⟩

end LiveList
