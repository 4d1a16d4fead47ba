import LiveList.Proofs.Source.Keeper
import LiveList.Share.Basic

/-!
The operations on the shared directories, and what each of them does to a root and reports.
-/

namespace LiveList

open Outcome

inductive ShareOperation where
  | addRoot (path : String) (update : RootUpdate)
  | updateRoot (token : Nat) (update : RootUpdate)
  | removeRoot (token : Nat)
  | beginRefresh (token : Nat)
  | finishRefresh (now token size files directories : Nat)

namespace ShareRoot

/-- The properties that an update can give another value, as far as they have one. -/
def updated (root edited : ShareRoot) : PropertySet :=
  (if edited.virtualName = root.virtualName then [] else [virtualNameId]) ++
  (if edited.profiles = root.profiles then [] else [profilesId]) ++
  (if edited.incoming = root.incoming then [] else [incomingId])

/-- How a root is edited, and the reports about it. A name or profiles that are given are checked. -/
inductive Edit (root : ShareRoot) : ShareRoot → List PropertySet → Prop
  | update {edited : ShareRoot} (virtualName : String) (profiles : List Nat) (incoming : Bool)
      (named : virtualName = root.virtualName ∨
        ∃ name, Share.checkVirtualName name = .ok virtualName)
      (published : profiles = root.profiles ∨ profiles ≠ [])
      (made : edited = { root with virtualName, profiles, incoming }) :
      Edit root edited (if (root.updated edited).isEmpty then [] else [root.updated edited])
  | begin (idle : root.refreshState ≠ .running) :
      Edit root { root with refreshState := .running } [[refreshStateId]]
  | finish (now size files directories : Nat) :
      Edit root
        { root with size, files, directories, lastRefreshTime := now, refreshState := .normal }
        [PropertySet.ofIds [sizeId, typeId, lastRefreshTimeId, refreshStateId]]

structure Admitted (root : ShareRoot) (share : Share) : Prop where
  next : root.token = share.nextToken
  placed : root.path ≠ ""
  named : root.virtualName = Share.defaultVirtualName root.path ∨
    ∃ name, Share.checkVirtualName name = .ok root.virtualName
  published : root.profiles ≠ []
  apart : ∀ other ∈ share.items, Path.overlap other.path.toList root.path.toList = false

end ShareRoot

namespace Share

variable {share : Share} {token : Nat} {update : RootUpdate}

def operate (share : Share) : ShareOperation → Published Share (Except SourceError Unit)
  | .addRoot path update => .settled share (share.addRoot path update)
  | .updateRoot token update => .settled share (share.updateRoot token update)
  | .removeRoot token => .settled share (share.removeRoot token)
  | .beginRefresh token => .settled share (share.beginRefresh token)
  | .finishRefresh now token size files directories =>
      .settled share (share.finishRefresh now token size files directories)

def keeper : Keeper where
  Item := ShareRoot
  Owner := Share
  Operation := ShareOperation
  Error := SourceError
  start := {}
  listed share := share
  handler := ShareRoot.handler
  operate := operate

abbrev Step (share : Share) : List ItemEvent → Share → Prop :=
  Catalog.Step ShareRoot.token ShareRoot.Edit share

abbrev Revision (share : Share) : List ItemEvent → Share → Prop :=
  Catalog.Revision ShareRoot.token ShareRoot.Edit share

theorem find_ok {root : ShareRoot} (success : share.find token = .ok root) :
    share.get? token = some root := by
  grind [find]

theorem checkProfiles_ok {profiles checked : List Nat}
    (success : checkProfiles profiles = .ok checked) : checked = profiles ∧ checked ≠ [] := by
  unfold checkProfiles at success
  split at success
  · cases success
  · rename_i some
    rw [Except.ok.injEq] at success
    rw [← success]
    exact ⟨rfl, fun none => some (List.isEmpty_iff.mpr none)⟩

theorem checkGiven_ok {Value : Type} {given checked : Option Value}
    {check : Value → Except SourceError Value} (success : checkGiven given check = .ok checked)
    (kept : Value) : checked.getD kept = kept ∨ ∃ value, check value = .ok (checked.getD kept) := by
  unfold checkGiven at success
  split at success
  · rename_i value
    obtain ⟨result, passed, rfl⟩ := of_map_ok success
    exact .inr ⟨value, passed⟩
  · rw [← Except.ok.inj success]
    exact .inl rfl

/-- What is shared is a root with the given path that is admitted. -/
theorem addRoot_ok {path : String} {done : Published Share Nat}
    (success : share.addRoot path update = .ok done) :
    ∃ root : ShareRoot, root.path = path ∧ root.Admitted share ∧
      done = ⟨share.add root, [.added share.nextToken], share.nextToken⟩ := by
  unfold addRoot at success
  split at success
  · cases success
  rename_i placed
  dsimp only at success
  -- The name is given or found in the path; all else is the same.
  split at success
  all_goals
    obtain ⟨virtualName, name, success⟩ := of_bind_ok success
    obtain ⟨profiles, profiled, success⟩ := of_bind_ok success
    have named : virtualName = defaultVirtualName path ∨
        ∃ name, checkVirtualName name = .ok virtualName := by
      first
      | exact .inr ⟨_, name⟩
      | exact .inl (of_pure_ok name).symm
    split at success
    · cases success
    · rename_i apart
      refine ⟨_, rfl, ⟨rfl, ?_, named, (checkProfiles_ok profiled).2, ?_⟩,
        (of_pure_ok success).symm⟩
      · simpa using placed
      · simpa using apart

theorem addRoot_step {path : String} {done : Published Share Nat}
    (success : share.addRoot path update = .ok done) : share.Step done.events done.owner := by
  obtain ⟨root, _, admitted, rfl⟩ := addRoot_ok success
  exact .add root admitted.next

theorem updateRoot_revision (sound : share.Sound ShareRoot.token) {done : Published Share PropertySet}
    (success : share.updateRoot token update = .ok done) : share.Revision done.events done.owner := by
  obtain ⟨root, found, success⟩ := of_bind_ok success
  obtain ⟨virtualName, named, success⟩ := of_bind_ok success
  obtain ⟨profiles, profiled, success⟩ := of_bind_ok success
  rw [← of_pure_ok success]
  have published : profiles.getD root.profiles = root.profiles ∨ profiles.getD root.profiles ≠ [] :=
    (checkGiven_ok profiled root.profiles).imp_right fun ⟨_, passed⟩ => (checkProfiles_ok passed).2
  have edit : root.Edit _ _ := .update (virtualName.getD root.virtualName)
    (profiles.getD root.profiles) (update.incoming.getD root.incoming)
    (checkGiven_ok named root.virtualName) published rfl
  have revision := Catalog.Revision.editOne sound (find_ok found) edit rfl
  rw [apply_ite (List.map _)] at revision
  exact revision

theorem removeRoot_revision {done : Published Share ShareRoot}
    (success : share.removeRoot token = .ok done) : share.Revision done.events done.owner := by
  obtain ⟨root, found, success⟩ := of_bind_ok success
  rw [← of_pure_ok success]
  exact .dropOne (find_ok found)

theorem beginRefresh_revision (sound : share.Sound ShareRoot.token) {done : Published Share Unit}
    (success : share.beginRefresh token = .ok done) : share.Revision done.events done.owner := by
  obtain ⟨root, found, success⟩ := of_bind_ok success
  split at success
  · cases success
  · rename_i idle
    rw [← of_pure_ok success]
    exact .editOne sound (find_ok found) (ShareRoot.Edit.begin idle) rfl

theorem finishRefresh_revision (sound : share.Sound ShareRoot.token)
    {now size files directories : Nat} {done : Published Share Unit}
    (success : share.finishRefresh now token size files directories = .ok done) :
    share.Revision done.events done.owner := by
  obtain ⟨root, found, success⟩ := of_bind_ok success
  rw [← of_pure_ok success]
  exact .editOne sound (find_ok found) (ShareRoot.Edit.finish now size files directories) rfl

/-- Every operation but the one that shares a directory only revises the list. -/
theorem operate_revision (sound : share.Sound ShareRoot.token) (operation : ShareOperation) :
    (∃ path update, operation = .addRoot path update) ∨
      share.Revision (share.operate operation).events (share.operate operation).owner := by
  cases operation with
  | addRoot path update => exact .inl ⟨path, update, rfl⟩
  | updateRoot token update => exact .inr (Catalog.settled_revision (updateRoot_revision sound))
  | removeRoot token => exact .inr (Catalog.settled_revision removeRoot_revision)
  | beginRefresh token => exact .inr (Catalog.settled_revision (beginRefresh_revision sound))
  | finishRefresh now token size files directories =>
      exact .inr (Catalog.settled_revision (finishRefresh_revision sound))

theorem keeper_steps : keeper.Steps ShareRoot.Edit where
  start := rfl
  step sound operation := by
    rcases operate_revision sound operation with ⟨path, update, rfl⟩ | revision
    · exact Catalog.settled_step addRoot_step
    · exact revision.step
  refused {_ operation _} refusal := by
    cases operation <;> exact Published.settled_error refusal

end Share

end LiveList
