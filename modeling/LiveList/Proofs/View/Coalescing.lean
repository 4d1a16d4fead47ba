import LiveList.Proofs.View.Scene
import LiveList.Proofs.View.Sound
import Mathlib.Data.List.Induction

/-!
Reports that wait for one flush, against a flush after each of them. Of all reports about an item
only one change is left, and it is made without a look at what the view knows; where that makes a
difference is said exactly.
-/

namespace LiveList

variable {Ref : Type}

structure Notice (Ref : Type) where
  kind : ChangeKind
  item : Ref
  changed : PropertySet := []

structure Standing where
  known : Bool
  shown : Bool
  deriving DecidableEq

def history (key : Ref → Nat) (notices : List (Notice Ref)) (k : Nat) : List ChangeKind :=
  (notices.filter fun notice => key notice.item == k).map (·.kind)

namespace ListView

variable (handler : Handler Ref)

def notice (view : ListView Ref) (notice : Notice Ref) : ListView Ref :=
  view.hear handler notice.kind notice.item notice.changed

def flushOnce (view : ListView Ref) (notices : List (Notice Ref)) : ListView Ref :=
  ((notices.foldl (notice handler) view).flush handler).view

def flushEach (view : ListView Ref) (notices : List (Notice Ref)) : ListView Ref :=
  notices.foldl (fun view report => ((view.notice handler report).flush handler).view) view

def standing (key : Ref → Nat) (view : ListView Ref) (k : Nat) : Standing where
  known := decide (k ∈ view.rows.known.map key)
  shown := decide (k ∈ view.rows.matching.map key)

end ListView

namespace Standing

/-- The kind of report that makes a difference to an item: an addition, unless it is known. -/
def telling (standing : Standing) : ChangeKind := if standing.known then .update else .add

def turn (passes : Bool) (standing : Standing) (kind : ChangeKind) (replaces : Bool) : Standing :=
  match kind with
  | .remove => ⟨false, false⟩
  | .add => if standing.known && !replaces then standing else ⟨true, passes⟩
  | .update => if standing.known then ⟨true, passes⟩ else standing

def merged (waiting : Option (ChangeKind × Bool)) (kind : ChangeKind) : Option (ChangeKind × Bool) :=
  match waiting, kind with
  | none, _ => some (kind, false)
  | some _, .remove => some (.remove, false)
  | some (.remove, _), .add => some (.add, true)
  | some waiting, _ => some waiting

def settle (passes : Bool) (standing : Standing) (waiting : Option (ChangeKind × Bool)) : Standing :=
  match waiting with
  | none => standing
  | some (kind, replaces) => standing.turn passes kind replaces

variable {passes : Bool} {standing : Standing} {kinds : List ChangeKind}

/-- From a removal on, one change is as good as all reports. -/
theorem settle_removed (passes : Bool) (standing : Standing) (removed : .remove ∈ kinds) :
    (kinds.foldl merged none = some (.remove, false) ∧
        kinds.foldl (turn passes · · false) standing = ⟨false, false⟩) ∨
      kinds.foldl merged none = some (.add, true) ∧
        kinds.foldl (turn passes · · false) standing = ⟨true, passes⟩ := by
  induction kinds using List.reverseRecOn with
  | nil => cases removed
  | append_singleton kinds kind ih =>
      rw [List.foldl_append, List.foldl_append]
      rcases List.mem_append.mp removed with earlier | last
      · rcases ih earlier with ⟨waits, left⟩ | ⟨waits, left⟩ <;>
          rw [waits, left] <;> cases kind <;> simp [merged, turn]
      · obtain rfl := List.mem_singleton.mp last
        refine .inl ⟨?_, rfl⟩
        cases kinds.foldl merged none <;> rfl

/-- Without a removal, what waits is of the kind of the first report. -/
theorem merged_unremoved (unremoved : .remove ∉ kinds) :
    kinds.foldl merged none = kinds.head?.map (·, false) := by
  induction kinds using List.reverseRecOn with
  | nil => rfl
  | append_singleton kinds kind ih =>
      rw [List.mem_append, not_or] at unremoved
      rw [List.foldl_append, ih unremoved.1]
      cases kinds with
      | nil => rfl
      | cons first rest =>
          have other : first ≠ .remove := fun same => unremoved.1 (same ▸ List.mem_cons_self)
          have last : kind ≠ .remove := fun same => unremoved.2 (same ▸ List.mem_cons_self)
          cases first <;> cases kind <;> first | rfl | contradiction

/-- Without a removal, the reports that tell something new are all that counts. -/
theorem turns_unremoved (unremoved : .remove ∉ kinds) :
    kinds.foldl (turn passes · · false) standing =
      if standing.telling ∈ kinds then ⟨true, passes⟩ else standing := by
  induction kinds using List.reverseRecOn with
  | nil => rfl
  | append_singleton kinds kind ih =>
      rw [List.mem_append, not_or] at unremoved
      have last : kind ≠ .remove := fun same => unremoved.2 (same ▸ List.mem_cons_self)
      rw [List.foldl_append, ih unremoved.1]
      obtain ⟨known, shown⟩ := standing
      by_cases before : (Standing.mk known shown).telling ∈ kinds
      · simp only [before, List.mem_append, true_or, ↓reduceIte]
        cases kind <;> first | rfl | contradiction
      · simp only [before, List.mem_append, false_or, ↓reduceIte, List.mem_singleton]
        cases known <;> cases kind <;> first | rfl | contradiction

theorem turn_unremoved {kind : ChangeKind} (other : kind ≠ .remove) :
    standing.turn passes kind false =
      if kind = standing.telling then ⟨true, passes⟩ else standing := by
  obtain ⟨known, shown⟩ := standing
  cases known <;> cases kind <;> first | rfl | contradiction

/-- One change differs from all reports exactly if none of them removes, the first tells nothing new
but a later one does, and that changes anything. -/
theorem settle_eq_iff :
    standing.settle passes (kinds.foldl merged none) =
        kinds.foldl (turn passes · · false) standing ↔
      ¬ (.remove ∉ kinds ∧ standing.telling ∈ kinds ∧ kinds.head? ≠ some standing.telling ∧
        (standing.known = true → standing.shown ≠ passes)) := by
  by_cases removed : .remove ∈ kinds
  · rcases settle_removed passes standing removed with
      ⟨waits, left⟩ | ⟨waits, left⟩ <;>
      · rw [waits, left]
        simp [settle, turn, removed]
  · rw [merged_unremoved removed, turns_unremoved removed]
    cases kinds with
    | nil => simp [settle]
    | cons first rest =>
        have other : first ≠ .remove := fun same => removed (same ▸ List.mem_cons_self)
        rw [List.head?_cons, Option.map_some, settle, turn_unremoved other]
        by_cases telling : first = standing.telling
        · simp [telling]
        · rw [if_neg telling]
          by_cases told : standing.telling ∈ first :: rest
          · obtain ⟨known, shown⟩ := standing
            cases known <;> simp [removed, told, telling]
          · simp [told]

end Standing

def Change.mark (change : Change Ref) : ChangeKind × Bool := (change.kind, change.replaces)

theorem Changes.reported_mark (before : Option (Change Ref)) (item : Ref) (kind : ChangeKind)
    (changed : PropertySet) :
    some (reported before item kind changed).mark = Standing.merged (before.map (·.mark)) kind := by
  cases before with
  | none => rfl
  | some change =>
      obtain ⟨waits, old, names, replaces⟩ := change
      cases waits <;> cases kind <;> rfl

def Cell.standing (cell : Cell Ref) : Standing := ⟨cell.known.isSome, cell.shown.isSome⟩

theorem Cell.turn_standing (passes : Ref → Bool) (change : Change Ref) (cell : Cell Ref) :
    (cell.turn passes change).standing =
      cell.standing.turn (passes change.item) change.kind change.replaces := by
  obtain ⟨known, shown, told⟩ := cell
  obtain ⟨kind, item, changed, replaces⟩ := change
  cases kind with
  | remove => rfl
  | add =>
      cases known <;> cases replaces <;> cases passed : passes item <;>
        simp [turn, standing, Standing.turn, passed]
  | update =>
      cases known <;> cases shown <;> cases passed : passes item <;>
        simp [turn, standing, Standing.turn, passed]

namespace ListView

variable {handler : Handler Ref} {view : ListView Ref} {notices : List (Notice Ref)} {k : Nat}
  {passes : Bool}

theorem standing_eq (key : Ref → Nat) (view : ListView Ref) (k : Nat) :
    view.standing key k = (view.cell key k).standing := by
  have held (rows : List Ref) : decide (k ∈ rows.map key) = (holder key rows k).isSome := by
    rw [Bool.eq_iff_iff, decide_eq_true_iff, Option.isSome_iff_ne_none, ne_eq, holder_eq_none,
      Decidable.not_not]
  simp only [standing, Cell.standing, cell, held]

/-- A flush turns the standing of each key by the change that waits for it. -/
theorem Sound.flush_standing (sound : view.Sound handler.key) (active : view.phase = .active)
    (sorted : view.settings.sortProperty.isSome)
    (agree : ∀ change, view.changes.waiting k = some change →
      Filter.passAll view.filters.compiled handler change.item = passes) :
    (view.flush handler).view.standing handler.key k =
      (view.standing handler.key k).settle passes ((view.changes.waiting k).map (·.mark)) := by
  obtain ⟨property, given⟩ := Option.isSome_iff_exists.mp sorted
  by_cases news : view.hasNews = true
  · have ready : view.Ready property := ⟨active, given, news⟩
    have turned := congrArg Cell.standing (sound.passEnd_cell property k)
    rw [flush_ready handler ready, standing_eq, standing_eq]
    refine turned.trans ?_
    cases waits : view.changes.waiting k with
    | none => rfl
    | some change =>
        rw [Cell.settle, Cell.turn_standing, ← agree change waits]
        rfl
  · -- Without news no change waits.
    have idle : ∀ property, ¬ view.Ready property := fun _ ready => news ready.news
    have empty : view.changes.isEmpty = true := by
      unfold hasNews at news
      simp_all
    rw [flush_idle handler idle, sound.changes.isEmpty_iff.mp empty k]
    rfl

/-- Reports change nothing but what waits. -/
theorem notices_only (handler : Handler Ref) (view : ListView Ref) (notices : List (Notice Ref)) :
    ∃ changes, notices.foldl (notice handler) view = { view with changes } := by
  induction notices generalizing view with
  | nil => exact ⟨view.changes, rfl⟩
  | cons first rest ih =>
      obtain ⟨changes, same⟩ := ih (view.notice handler first)
      refine ⟨changes, ?_⟩
      rw [List.foldl_cons, same]
      unfold notice hear
      split <;> rfl

theorem Sound.noticed (sound : view.Sound handler.key) (notices : List (Notice Ref)) :
    (notices.foldl (notice handler) view).Sound handler.key := by
  induction notices generalizing view with
  | nil => exact sound
  | cons first rest ih => exact ih (sound.hear _ _ _)

theorem notice_there (there : view.phase ≠ .inactive) (report : Notice Ref) :
    view.notice handler report = { view with
      changes := view.changes.report (handler.key report.item) report.item report.kind
        report.changed } := by
  simp [notice, ListView.hear, there]

theorem notice_waiting (handler : Handler Ref) (there : view.phase ≠ .inactive)
    (report : Notice Ref) (k : Nat) :
    (view.notice handler report).changes.waiting k =
      if k = handler.key report.item then
        some (Changes.reported (view.changes.waiting k) report.item report.kind report.changed)
      else view.changes.waiting k := by
  rw [notice_there there, Changes.waiting_report]
  split
  · rename_i same
    rw [same]
  · rfl

/-- What waits for a key after some reports is merged of those about it. -/
theorem notices_waiting (handler : Handler Ref) (there : view.phase ≠ .inactive)
    (notices : List (Notice Ref)) (k : Nat) :
    ((notices.foldl (notice handler) view).changes.waiting k).map (·.mark) =
      (history handler.key notices k).foldl Standing.merged
        ((view.changes.waiting k).map (·.mark)) := by
  induction notices generalizing view with
  | nil => rfl
  | cons first rest ih =>
      have still : (view.notice handler first).phase ≠ .inactive := by rwa [notice_there there]
      rw [List.foldl_cons, ih still, notice_waiting handler there]
      by_cases here : k = handler.key first.item
      · simp [history, here, Changes.reported_mark]
      · simp [history, here, Ne.symm here]

theorem notices_item (holds : Ref → Prop) (there : view.phase ≠ .inactive)
    (before : ∀ change, view.changes.waiting k = some change → holds change.item)
    (reported : ∀ notice ∈ notices, handler.key notice.item = k → holds notice.item) :
    ∀ change, (notices.foldl (notice handler) view).changes.waiting k = some change →
      holds change.item := by
  induction notices generalizing view with
  | nil => exact before
  | cons first rest ih =>
      have still : (view.notice handler first).phase ≠ .inactive := by rwa [notice_there there]
      refine ih still (fun change waits => ?_) fun other member =>
        reported other (List.mem_cons_of_mem first member)
      rw [notice_waiting handler there] at waits
      split at waits
      · rename_i here
        rw [← Option.some.inj waits, Changes.reported_item]
        exact reported first List.mem_cons_self here.symm
      · exact before change waits

/-- All reports in one flush: the change that is merged of them. -/
theorem Sound.flushOnce_standing (sound : view.Sound handler.key) (active : view.phase = .active)
    (sorted : view.settings.sortProperty.isSome) (quiet : view.changes = {})
    (agree : ∀ notice ∈ notices, handler.key notice.item = k →
      Filter.passAll view.filters.compiled handler notice.item = passes) :
    (view.flushOnce handler notices).standing handler.key k =
      (view.standing handler.key k).settle passes
        ((history handler.key notices k).foldl Standing.merged none) := by
  have there := there_of_active active
  have none (change : Change Ref) (waits : view.changes.waiting k = some change) : False := by
    rw [quiet] at waits
    cases waits
  have waiting := notices_waiting handler there notices k
  have items := notices_item (fun item => Filter.passAll view.filters.compiled handler item = passes)
    there (fun change waits => (none change waits).elim) agree
  have noticed := sound.noticed notices
  obtain ⟨changes, same⟩ := notices_only handler view notices
  unfold flushOnce
  rw [same] at waiting items noticed ⊢
  rw [noticed.flush_standing active sorted items, waiting, quiet]
  rfl

/-- A flush that can run leaves no change, and the phase, the order and the filters as they are. -/
theorem Sound.flush_settled (sound : view.Sound handler.key) (active : view.phase = .active)
    (sorted : view.settings.sortProperty.isSome) :
    (view.flush handler).view.changes = {} ∧ (view.flush handler).view.phase = .active ∧
      (view.flush handler).view.settings.sortProperty.isSome ∧
      (view.flush handler).view.filters = view.filters := by
  obtain ⟨property, given⟩ := Option.isSome_iff_exists.mp sorted
  by_cases news : view.hasNews = true
  · rw [flush_ready handler ⟨active, given, news⟩]
    exact ⟨rfl, active, sorted, rfl⟩
  · rw [flush_idle handler fun _ ready => news ready.news]
    refine ⟨?_, active, sorted, rfl⟩
    refine sound.changes.eq_empty ?_
    unfold hasNews at news
    simp_all

/-- A flush after each report: one turn after the other. -/
theorem Sound.flushEach_standing (sound : view.Sound handler.key) (active : view.phase = .active)
    (sorted : view.settings.sortProperty.isSome) (quiet : view.changes = {})
    (agree : ∀ notice ∈ notices, handler.key notice.item = k →
      Filter.passAll view.filters.compiled handler notice.item = passes) :
    (view.flushEach handler notices).standing handler.key k =
      (history handler.key notices k).foldl (Standing.turn passes · · false)
        (view.standing handler.key k) := by
  induction notices generalizing view with
  | nil => rfl
  | cons first rest ih =>
      have one := sound.flushOnce_standing active sorted quiet fun notice member =>
        agree notice (List.mem_cons.mpr (.inl (List.mem_singleton.mp member)))
      have heard := sound.noticed [first]
      obtain ⟨changes, same⟩ := notices_only handler view [first]
      obtain ⟨nothing, still, sorts, filters⟩ :=
        heard.flush_settled (by rwa [same]) (by rwa [same])
      refine (ih heard.flush still sorts nothing fun notice member keyed => ?_).trans ?_
      · rw [filters, same]
        exact agree notice (List.mem_cons_of_mem first member) keyed
      · refine (congrArg (fun standing => (history handler.key rest k).foldl
          (Standing.turn passes · · false) standing) one).trans ?_
        by_cases here : handler.key first.item = k
        · simp [history, here, Standing.merged, Standing.settle]
        · simp [history, here, Standing.settle]

/-- Where no flush runs, nothing but what waits changes. -/
theorem flushOnce_idle (idle : ¬ (view.phase = .active ∧ view.settings.sortProperty.isSome)) :
    (view.flushOnce handler notices).rows = view.rows := by
  obtain ⟨changes, same⟩ := notices_only handler view notices
  unfold flushOnce
  rw [same, flush_idle handler]
  exact fun property ready => idle ⟨ready.active, ready.sortable⟩

theorem flushEach_idle (idle : ¬ (view.phase = .active ∧ view.settings.sortProperty.isSome)) :
    (view.flushEach handler notices).rows = view.rows := by
  induction notices generalizing view with
  | nil => rfl
  | cons first rest ih =>
      obtain ⟨changes, same⟩ := notices_only handler view [first]
      have still : ((view.notice handler first).flush handler).view = { view with changes } := by
        show ((List.foldl (notice handler) view [first]).flush handler).view = _
        rw [same, flush_idle handler]
        exact fun property ready => idle ⟨ready.active, ready.sortable⟩
      rw [flushEach, List.foldl_cons, still]
      exact ih idle

/-- A key that a flush overlooks: there is no removal in its history, and what would tell something
new of it, an addition of an unknown item or an update of a known one, comes only after a report of
the other kind. Of a known item the view is behind: it is on the wrong side of the filters. -/
structure Overlooks (handler : Handler Ref) (view : ListView Ref) (notices : List (Notice Ref))
    (k : Nat) : Prop where
  unremoved : .remove ∉ history handler.key notices k
  told : (view.standing handler.key k).telling ∈ history handler.key notices k
  late : (history handler.key notices k).head? ≠ some (view.standing handler.key k).telling
  behind : k ∈ view.rows.known.map handler.key → ∀ notice ∈ notices, handler.key notice.item = k →
    ¬ (k ∈ view.rows.matching.map handler.key ↔
      Filter.passAll view.filters.compiled handler notice.item = true)

theorem standing_eq_iff {key : Ref → Nat} {first second : ListView Ref} :
    first.standing key k = second.standing key k ↔
      (k ∈ first.rows.known.map key ↔ k ∈ second.rows.known.map key) ∧
        (k ∈ first.rows.matching.map key ↔ k ∈ second.rows.matching.map key) := by
  simp only [standing, Standing.mk.injEq, decide_eq_decide]

/-- One value of the filters stands for all reports about a key, as they are about one item. -/
theorem exists_passes (filters : List Filter)
    (handles : ∀ first ∈ notices, ∀ second ∈ notices,
      handler.key first.item = handler.key second.item → first.item = second.item) (k : Nat) :
    ∃ passes, ∀ notice ∈ notices, handler.key notice.item = k →
      Filter.passAll filters handler notice.item = passes := by
  by_cases reported : ∃ notice ∈ notices, handler.key notice.item = k
  · obtain ⟨one, member, keyed⟩ := reported
    refine ⟨Filter.passAll filters handler one.item, fun other there same => ?_⟩
    rw [handles other there one member (same.trans keyed.symm)]
  · exact ⟨true, fun notice member keyed => absurd ⟨notice, member, keyed⟩ reported⟩

/-- To be overlooked is a matter of the standing, the history and the filters alone. -/
theorem overlooks_iff (agree : ∀ notice ∈ notices, handler.key notice.item = k →
      Filter.passAll view.filters.compiled handler notice.item = passes) :
    view.Overlooks handler notices k ↔
      .remove ∉ history handler.key notices k ∧
        (view.standing handler.key k).telling ∈ history handler.key notices k ∧
        (history handler.key notices k).head? ≠ some (view.standing handler.key k).telling ∧
        ((view.standing handler.key k).known = true →
          (view.standing handler.key k).shown ≠ passes) := by
  have wrong : (k ∈ view.rows.matching.map handler.key ↔ passes = true) ↔
      (view.standing handler.key k).shown = passes := by
    cases passes <;> simp [standing]
  constructor
  · rintro ⟨unremoved, told, late, behind⟩
    refine ⟨unremoved, told, late, fun known same => ?_⟩
    obtain ⟨notice, member, _⟩ := List.mem_map.mp told
    obtain ⟨listed, keyed⟩ := List.mem_filter.mp member
    have keyed : handler.key notice.item = k := by simpa using keyed
    refine behind (by simpa [standing] using known) notice listed keyed ?_
    rw [agree notice listed keyed]
    exact wrong.mpr same
  · rintro ⟨unremoved, told, late, behind⟩
    refine ⟨unremoved, told, late, fun known notice listed keyed right => ?_⟩
    rw [agree notice listed keyed] at right
    exact behind (by simpa [standing] using known) (wrong.mp right)

end ListView

/-- From any state of a view in which nothing waits, one flush for all reports gives the same known
keys and the same keys in the view as a flush after each report, but for the keys that are
overlooked. -/
theorem coalescing_exact (handler : Handler Ref) (occasions : List (Occasion Ref))
    (keyed : ∀ occasion ∈ occasions, occasion.handler.key = handler.key)
    (quiet : (({} : ListView Ref).live occasions).view.changes.isEmpty = true)
    (notices : List (Notice Ref))
    (handles : ∀ first ∈ notices, ∀ second ∈ notices,
      handler.key first.item = handler.key second.item → first.item = second.item) (k : Nat) :
    let view := (({} : ListView Ref).live occasions).view
    let once := view.flushOnce handler notices
    let each := view.flushEach handler notices
    ((k ∈ once.rows.known.map handler.key ↔ k ∈ each.rows.known.map handler.key) ∧
        (k ∈ once.rows.matching.map handler.key ↔ k ∈ each.rows.matching.map handler.key)) ↔
      ¬ (view.phase = .active ∧ view.settings.sortProperty.isSome ∧
        view.Overlooks handler notices k) := by
  intro view once each
  have sound : view.Sound handler.key := ListView.Sound.start.live keyed
  have quiet : view.changes = {} := sound.changes.eq_empty quiet
  rw [← ListView.standing_eq_iff]
  by_cases flushable : view.phase = .active ∧ view.settings.sortProperty.isSome
  · obtain ⟨active, sorted⟩ := flushable
    obtain ⟨passes, agree⟩ := ListView.exists_passes view.filters.compiled handles k
    rw [sound.flushOnce_standing active sorted quiet agree,
      sound.flushEach_standing active sorted quiet agree, Standing.settle_eq_iff,
      ListView.overlooks_iff agree]
    simp only [active, sorted, true_and]
  · have same : once.standing handler.key k = each.standing handler.key k := by
      unfold ListView.standing
      rw [ListView.flushOnce_idle flushable, ListView.flushEach_idle flushable]
    exact iff_of_true same fun both => flushable ⟨both.1, both.2.1⟩

def Entry.sampleShown : List (Occasion Nat) :=
  let on (event : ViewEvent Nat) : Occasion Nat := ⟨Entry.tagged fun id => id, [1, 2], event⟩
  [on (.acted (.configure { sortProperty := some 2, maxCount := some 5 })),
    on (.acted (.command .flush))]

def Entry.sampleNotices : List (Notice Nat) :=
  [{ kind := .remove, item := 1 }, { kind := .update, item := 3, changed := [2] },
    { kind := .add, item := 1 }, { kind := .add, item := 3 }, { kind := .update, item := 1 }]

theorem Entry.sampleShown_keyed :
    ∀ occasion ∈ Entry.sampleShown, occasion.handler.key = (Entry.tagged fun id => id).key := by
  simp [Entry.sampleShown]

theorem Entry.sampleNotices_handles : ∀ first ∈ Entry.sampleNotices,
    ∀ second ∈ Entry.sampleNotices,
      (Entry.tagged fun id => id).key first.item = (Entry.tagged fun id => id).key second.item →
        first.item = second.item :=
  fun _ _ _ _ same => same

theorem sampleNotices_exact :
    let handler := Entry.tagged fun id => id
    let view := (({} : ListView Nat).live Entry.sampleShown).view
    let once := view.flushOnce handler Entry.sampleNotices
    let each := view.flushEach handler Entry.sampleNotices
    view.changes.isEmpty = true ∧
      (((1 ∈ once.rows.known.map handler.key ↔ 1 ∈ each.rows.known.map handler.key) ∧
          (1 ∈ once.rows.matching.map handler.key ↔ 1 ∈ each.rows.matching.map handler.key)) ↔
        ¬ (view.phase = .active ∧ view.settings.sortProperty.isSome ∧
          view.Overlooks handler Entry.sampleNotices 1)) := by
  have quiet : (({} : ListView Nat).live Entry.sampleShown).view.changes.isEmpty = true := by
    decide +kernel
  exact ⟨quiet, coalescing_exact (Entry.tagged fun id => id) Entry.sampleShown
    Entry.sampleShown_keyed quiet Entry.sampleNotices Entry.sampleNotices_handles 1⟩

/-- Of entry 3 only an update is left, and it is not known: with a flush after each report it would
be in the view. -/
theorem sampleNotices_lost :
    let handler := Entry.tagged fun id => id
    let view := (({} : ListView Nat).live Entry.sampleShown).view
    let once := view.flushOnce handler Entry.sampleNotices
    let each := view.flushEach handler Entry.sampleNotices
    (∀ occasion ∈ Entry.sampleShown, occasion.handler.key = handler.key) ∧
      view.changes.isEmpty = true ∧
      (∀ first ∈ Entry.sampleNotices, ∀ second ∈ Entry.sampleNotices,
        handler.key first.item = handler.key second.item → first.item = second.item) ∧
      3 ∉ once.rows.known.map handler.key ∧ 3 ∈ each.rows.known.map handler.key ∧
      3 ∉ once.rows.matching.map handler.key ∧ 3 ∈ each.rows.matching.map handler.key := by
  intro handler view once each
  exact ⟨Entry.sampleShown_keyed, by decide +kernel, Entry.sampleNotices_handles,
    by decide +kernel, by decide +kernel, by decide +kernel, by decide +kernel⟩

end LiveList
