import LiveList.Proofs.View.Waiting
import Mathlib.Data.List.Induction

/-!
What any sequence of reports comes to when the changes are taken: one change for each item that was
reported, which depends on the reports about that item alone, and of those on what came since the
last removal.
-/

namespace LiveList

variable {Ref : Type}

namespace Changes

/-- What is reported about an item. Only an update names properties. -/
inductive Report (Ref : Type) where
  | added (item : Ref)
  | removed (item : Ref)
  | updated (item : Ref) (changed : PropertySet)

namespace Report

def item : Report Ref → Ref
  | .added item | .removed item | .updated item _ => item

def kind : Report Ref → ChangeKind
  | .added _ => .add
  | .removed _ => .remove
  | .updated _ _ => .update

def named : Report Ref → PropertySet
  | .updated _ changed => changed
  | .added _ | .removed _ => []

end Report

def ofReports (key : Ref → Nat) (reports : List (Report Ref)) : Changes Ref :=
  reports.foldl
    (fun changes report =>
      changes.report (key report.item) report.item report.kind report.named) {}

def about (key : Ref → Nat) (reports : List (Report Ref)) (k : Nat) : List (Report Ref) :=
  reports.filter fun report => key report.item == k

inductive Outcome (reports : List (Report Ref)) (change : Change Ref) : Prop where
  /-- It was never removed: all updates count, and the first report says what kind it is. -/
  | kept (first : Report Ref) (begins : reports.head? = some first)
      (unremoved : ∀ report ∈ reports, report.kind ≠ .remove)
      (kind : change.kind = first.kind) (replaces : change.replaces = false)
      (changed : ∀ id, id ∈ change.changed ↔ ∃ report ∈ reports, id ∈ report.named)
  /-- After the last removal there was no addition: it is gone. -/
  | gone (before after : List (Report Ref)) (old : Ref)
      (split : reports = before ++ .removed old :: after)
      (updates : ∀ report ∈ after, report.kind = .update)
      (kind : change.kind = .remove) (replaces : change.replaces = false)
      (changed : change.changed = [])
  /-- It was added after the last removal: the updates since the first such addition count. -/
  | back (before between after : List (Report Ref)) (old new : Ref)
      (split : reports = before ++ .removed old :: between ++ .added new :: after)
      (updates : ∀ report ∈ between, report.kind = .update)
      (unremoved : ∀ report ∈ after, report.kind ≠ .remove)
      (kind : change.kind = .add) (replaces : change.replaces = true)
      (changed : ∀ id, id ∈ change.changed ↔ ∃ report ∈ after, id ∈ report.named)

structure Summarizes (reports : List (Report Ref)) (change : Change Ref) : Prop where
  latest : reports.getLast?.map Report.item = some change.item
  outcome : Outcome reports change

end Changes

namespace Change

variable {waiting : Change Ref} {kind : ChangeKind} {changed : PropertySet}

theorem merge_remove (waiting : Change Ref) (item : Ref) (changed : PropertySet) :
    waiting.merge item .remove changed = ⟨.remove, item, [], false⟩ := by
  unfold merge
  cases waiting.kind <;> rfl

theorem merge_removed_add (item : Ref) (gone : waiting.kind = .remove) :
    waiting.merge item .add changed = ⟨.add, item, [], true⟩ := by
  simp only [merge, gone]

theorem merge_removed_update (item : Ref) (gone : waiting.kind = .remove) :
    waiting.merge item .update changed = { waiting with item } := by
  simp only [merge, gone]

theorem merge_there (item : Ref) (there : waiting.kind ≠ .remove) (stays : kind ≠ .remove) :
    waiting.merge item kind changed =
      { waiting with item, changed := PropertySet.union waiting.changed changed } := by
  unfold merge
  cases waits : waiting.kind <;> cases kind <;> first | rfl | contradiction

end Change

namespace Changes

variable {key : Ref → Nat} {reports : List (Report Ref)} {report : Report Ref}
  {waiting : Change Ref}

/-- One report by itself. -/
theorem Summarizes.first (report : Report Ref) :
    Summarizes [report] (reported none report.item report.kind report.named) where
  latest := rfl
  outcome := by
    cases report with
    | removed item =>
        exact .gone [] [] item rfl (by simp) rfl rfl rfl
    | added item =>
        exact .kept _ rfl (by simp [Report.kind]) rfl rfl (by simp [reported])
    | updated item changed =>
        exact .kept _ rfl (by simp [Report.kind]) rfl rfl (by simp [reported])

/-- The properties that a further report adds to those that were named. -/
theorem union_named {named : PropertySet} {id : PropertyId}
    (names : id ∈ named ↔ ∃ report ∈ reports, id ∈ report.named) (report : Report Ref) :
    id ∈ PropertySet.union named report.named ↔
      ∃ other ∈ reports ++ [report], id ∈ other.named := by
  rw [PropertySet.mem_union, names]
  simp only [List.mem_append, List.mem_singleton, or_and_right, exists_or, exists_eq_left]

theorem unremoved_concat (unremoved : ∀ other ∈ reports, other.kind ≠ .remove)
    (stays : report.kind ≠ .remove) : ∀ other ∈ reports ++ [report], other.kind ≠ .remove := by
  intro other member
  rcases List.mem_append.mp member with earlier | last
  · exact unremoved other earlier
  · rwa [List.mem_singleton.mp last]

/-- What the reports came to, and one more report. -/
theorem Outcome.concat (outcome : Outcome reports waiting) (report : Report Ref) :
    Outcome (reports ++ [report]) (waiting.merge report.item report.kind report.named) := by
  by_cases stays : report.kind = .remove
  · -- Whatever there was, a removal is the last one now, and nothing comes after it.
    obtain ⟨old, rfl⟩ : ∃ old, report = .removed old := by
      cases report with
      | removed old => exact ⟨old, rfl⟩
      | added | updated => cases stays
    rw [stays, Change.merge_remove]
    exact .gone reports [] old rfl (by simp) rfl rfl rfl
  cases outcome with
  | kept first begins unremoved kind replaces changed =>
      have there : waiting.kind ≠ .remove :=
        kind ▸ unremoved first (List.mem_of_head? begins)
      rw [Change.merge_there _ there stays]
      exact .kept first (by rw [List.head?_append, begins]; rfl) (unremoved_concat unremoved stays)
        kind replaces fun id => union_named (changed id) report
  | gone before after old split updates kind replaces changed =>
      cases report with
      | removed => exact absurd rfl stays
      | added new =>
          rw [Report.kind, Change.merge_removed_add _ kind]
          exact .back before after [] old new (by rw [split]) updates (by simp) rfl rfl (by simp)
      | updated item named =>
          rw [Report.kind, Change.merge_removed_update _ kind]
          refine .gone before (after ++ [.updated item named]) old (by simp [split]) ?_ kind replaces
            changed
          intro other member
          rcases List.mem_append.mp member with earlier | last
          · exact updates other earlier
          · rw [List.mem_singleton.mp last, Report.kind]
  | back before between after old new split updates unremoved kind replaces changed =>
      have there : waiting.kind ≠ .remove := by simp [kind]
      rw [Change.merge_there _ there stays]
      exact .back before between (after ++ [report]) old new (by simp [split]) updates
        (unremoved_concat unremoved stays) kind replaces fun id => union_named (changed id) report

theorem Summarizes.concat (summary : Summarizes reports waiting) (report : Report Ref) :
    Summarizes (reports ++ [report])
      (reported (some waiting) report.item report.kind report.named) where
  latest := by rw [List.getLast?_concat, reported_item]; rfl
  outcome := summary.outcome.concat report

theorem ofReports_concat (key : Ref → Nat) (reports : List (Report Ref)) (report : Report Ref) :
    ofReports key (reports ++ [report]) =
      (ofReports key reports).report (key report.item) report.item report.kind report.named := by
  rw [ofReports, List.foldl_append]
  rfl

theorem about_concat (key : Ref → Nat) (reports : List (Report Ref)) (report : Report Ref)
    (k : Nat) :
    about key (reports ++ [report]) k =
      if key report.item = k then about key reports k ++ [report] else about key reports k := by
  by_cases same : key report.item = k <;> simp [about, List.filter_append, same]

theorem ofReports_valid (key : Ref → Nat) (reports : List (Report Ref)) :
    (ofReports key reports).Valid key := by
  induction reports using List.reverseRecOn with
  | nil => exact Valid.start
  | append_singleton reports report ih =>
      rw [ofReports_concat]
      exact ih.report report.item report.kind report.named

theorem Valid.waiting_eq_none {changes : Changes Ref} (valid : changes.Valid key) (k : Nat) :
    changes.waiting k = none ↔ k ∉ changes.order := by
  rw [waiting, Assoc.get?_eq_none, valid.order]

/-- A key that waits already keeps its turn. -/
theorem Valid.report_order {changes : Changes Ref} (valid : changes.Valid key) (k : Nat)
    (item : Ref) (kind : ChangeKind) (changed : PropertySet) :
    (changes.report k item kind changed).order =
      if k ∈ changes.order then changes.order else changes.order ++ [k] := by
  have waits := valid.waiting_eq_none k
  unfold waiting at waits
  unfold Changes.report
  split
  · rename_i none
    rw [if_neg (waits.mp none)]
  · rename_i found
    rw [if_pos (not_not.mp fun absent => by simp [waits.mpr absent] at found)]

theorem eraseDups_concat (keys : List Nat) (k : Nat) :
    (keys ++ [k]).eraseDups = if k ∈ keys then keys.eraseDups else keys.eraseDups ++ [k] := by
  rw [List.eraseDups_append]
  by_cases earlier : k ∈ keys <;> simp [List.removeAll, List.eraseDups_cons, earlier]

/-- The keys wait in the order in which they were first reported. -/
theorem order_ofReports (key : Ref → Nat) (reports : List (Report Ref)) :
    (ofReports key reports).order = (reports.map fun report => key report.item).eraseDups := by
  induction reports using List.reverseRecOn with
  | nil => rfl
  | append_singleton reports report ih =>
      rw [ofReports_concat, (ofReports_valid key reports).report_order, ih, List.map_append,
        List.map_singleton, eraseDups_concat]
      simp only [List.mem_eraseDups]

theorem waiting_ofReports_eq_none (key : Ref → Nat) (reports : List (Report Ref)) (k : Nat) :
    (ofReports key reports).waiting k = none ↔ about key reports k = [] := by
  rw [(ofReports_valid key reports).waiting_eq_none, order_ofReports, List.mem_eraseDups]
  simp [about]

/-- What waits for a key is made of the reports about it. -/
theorem waiting_ofReports {k : Nat} {change : Change Ref}
    (waits : (ofReports key reports).waiting k = some change) :
    Summarizes (about key reports k) change := by
  induction reports using List.reverseRecOn generalizing change with
  | nil => cases waits
  | append_singleton reports report ih =>
      rw [ofReports_concat, waiting_report] at waits
      rw [about_concat]
      by_cases same : k = key report.item
      · subst k
        rw [if_pos rfl, Option.some_inj] at waits
        rw [if_pos rfl, ← waits]
        cases earlier : (ofReports key reports).waiting (key report.item) with
        | none =>
            rw [(waiting_ofReports_eq_none key reports _).mp earlier]
            exact Summarizes.first report
        | some waiting => exact (ih earlier).concat report
      · rw [if_neg same] at waits
        rw [if_neg (Ne.symm same)]
        exact ih waits

/-- The changes that are taken after any reports: one for each key that was reported, in the order
of the first reports, each made of the reports about its key; and none is left. -/
theorem taken_exact (key : Ref → Nat) (reports : List (Report Ref)) :
    let (batch, left) := (ofReports key reports).take
    (batch.changes.map fun change => key change.item) =
        (reports.map fun report => key report.item).eraseDups ∧
      (∀ change ∈ batch.changes, Summarizes (about key reports (key change.item)) change) ∧
      (∀ id, id ∈ batch.updatedProperties ↔
        ∃ change ∈ batch.changes, change.kind = .update ∧ id ∈ change.changed) ∧
      left = {} := by
  have valid := ofReports_valid key reports
  refine ⟨?_, ?_, mem_updatedProperties _, rfl⟩
  · exact valid.batch_keys.trans (order_ofReports key reports)
  · intro change member
    exact waiting_ofReports (valid.mem_batch.mp member)

end Changes

end LiveList
