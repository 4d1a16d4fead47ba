import LiveList.Hub.Basic
import LiveList.Proofs.Source.Keeper
import LiveList.Proofs.Text.Blank

/-!
The operations on the list of favorite hubs, and what each of them does to a hub and reports.
-/

namespace LiveList

open Outcome

inductive HubOperation where
  | addHub (update : HubUpdate)
  | updateHub (token : Nat) (update : HubUpdate)
  | removeHub (token : Nat)
  | setConnectState (token : Nat) (state : ConnectState)

namespace HubUpdate

variable {update : HubUpdate} {hub edited : FavoriteHub}

def onto (update : HubUpdate) (hub : FavoriteHub) : FavoriteHub :=
  { hub with
    name := update.name.getD hub.name
    url := update.url.getD hub.url
    description := update.description.getD hub.description
    autoConnect := update.autoConnect.getD hub.autoConnect
    shareProfile := update.shareProfile.getD hub.shareProfile
    nick := update.nick.getD hub.nick
    password := update.password.getD hub.password
    userDescription := update.userDescription.getD hub.userDescription
    ignorePrivateMessages := update.ignorePrivateMessages.getD hub.ignorePrivateMessages }

def FitsProfile (update : HubUpdate) (hub : FavoriteHub) : Prop :=
  ∀ profile ∈ update.shareProfile, profile.isSome = true → (update.onto hub).isAdc = true

structure Valid (update : HubUpdate) (hub : FavoriteHub) : Prop where
  name : ∀ name ∈ update.name, ¬ Text.Blank name.toList
  url : ∀ url ∈ update.url, ¬ Text.Blank url.toList
  profile : update.FitsProfile hub

theorem apply_ok_iff : update.apply hub = .ok edited ↔ update.Valid hub ∧ edited = update.onto hub := by
  have blank (given : Option String) :
      (given.any fun text => (Text.trim text.toList).isEmpty) = true ↔
        ¬ ∀ text ∈ given, ¬ Text.Blank text.toList := by
    simp [Option.any_eq_true, ← Text.trim_eq_nil_iff]
  have misplaced : (update.shareProfile.any (·.isSome) &&
        !FavoriteHub.isAdcUrl (update.url.getD hub.url)) = true ↔
      ¬ update.FitsProfile hub := by
    simp [Option.any_eq_true, FitsProfile, FavoriteHub.isAdc, onto]
    grind
  unfold apply
  dsimp only
  split
  · rename_i unnamed
    exact ⟨nofun, fun given => absurd given.1.name ((blank _).mp unnamed)⟩
  split
  · rename_i _ nowhere
    exact ⟨nofun, fun given => absurd given.1.url ((blank _).mp nowhere)⟩
  split
  · rename_i _ _ unfit
    exact ⟨nofun, fun given => absurd given.1.profile (misplaced.mp unfit)⟩
  · rename_i named placed fit
    have valid : update.Valid hub :=
      ⟨Classical.not_not.mp (mt (blank _).mpr named), Classical.not_not.mp (mt (blank _).mpr placed),
        Classical.not_not.mp (mt misplaced.mpr fit)⟩
    rw [Except.ok.injEq, eq_comm]
    exact ⟨fun same => ⟨valid, same⟩, fun given => given.2⟩

end HubUpdate

inductive FavoriteHub.Edit (hub : FavoriteHub) : FavoriteHub → List PropertySet → Prop
  | update {edited : FavoriteHub} (update : HubUpdate) (accepted : update.apply hub = .ok edited) :
      Edit hub edited [properties.ids]
  | connect (state : ConnectState) (other : hub.connectState ≠ state) :
      Edit hub { hub with connectState := state } [[connectStateId]]

inductive FavoriteHub.Connects (hub : FavoriteHub) : FavoriteHub → List PropertySet → Prop
  | connect (state : ConnectState) (other : hub.connectState ≠ state) :
      Connects hub { hub with connectState := state } [[connectStateId]]

theorem FavoriteHub.Connects.edit {hub edited : FavoriteHub} {reports : List PropertySet}
    (connects : hub.Connects edited reports) : hub.Edit edited reports := by
  obtain ⟨state, other⟩ := connects
  exact .connect state other

namespace HubList

variable {hubs : HubList} {token : Nat} {update : HubUpdate}

def operate (hubs : HubList) : HubOperation → Published HubList (Except SourceError Unit)
  | .addHub update => .settled hubs (hubs.addHub update)
  | .updateHub token update => .settled hubs (hubs.updateHub token update)
  | .removeHub token => .settled hubs (hubs.removeHub token)
  | .setConnectState token state => .settled hubs (hubs.setConnectState token state)

def keeper : Keeper where
  Item := FavoriteHub
  Owner := HubList
  Operation := HubOperation
  Error := SourceError
  start := {}
  listed hubs := hubs
  handler := FavoriteHub.handler
  operate := operate

abbrev Step (hubs : HubList) : List ItemEvent → HubList → Prop :=
  Catalog.Step FavoriteHub.token FavoriteHub.Edit hubs

abbrev Revision (hubs : HubList) : List ItemEvent → HubList → Prop :=
  Catalog.Revision FavoriteHub.token FavoriteHub.Connects hubs

theorem find_ok {hub : FavoriteHub} (success : hubs.find token = .ok hub) :
    hubs.get? token = some hub := by
  grind [find]

theorem find_some {hub : FavoriteHub} (there : hubs.get? token = some hub) :
    hubs.find token = .ok hub := by
  rw [find, there]

/-- A hub is saved if its name and its address are given, all fields are valid, and the address is
not in the list. -/
theorem addHub_ok_iff {done : Published HubList Nat} :
    hubs.addHub update = .ok done ↔
      update.name ≠ none ∧ update.url ≠ none ∧ update.Valid { token := hubs.nextToken } ∧
        hubs.isTaken (update.onto { token := hubs.nextToken }).url none = false ∧
          done = ⟨hubs.add (update.onto { token := hubs.nextToken }), [.added hubs.nextToken],
            hubs.nextToken⟩ := by
  unfold addHub
  split
  · rename_i unnamed
    exact ⟨nofun, fun given => absurd (Option.isNone_iff_eq_none.mp unnamed) given.1⟩
  split
  · rename_i _ unplaced
    exact ⟨nofun, fun given => absurd (Option.isNone_iff_eq_none.mp unplaced) given.2.1⟩
  rename_i named placed
  rw [Option.isNone_iff_eq_none] at named placed
  dsimp only
  constructor
  · intro success
    obtain ⟨hub, applied, success⟩ := of_bind_ok success
    obtain ⟨valid, rfl⟩ := HubUpdate.apply_ok_iff.mp applied
    split at success
    · cases success
    · rename_i free
      exact ⟨named, placed, valid, Bool.eq_false_iff.mpr free, (of_pure_ok success).symm⟩
  · rintro ⟨_, _, valid, free, rfl⟩
    rw [HubUpdate.apply_ok_iff.mpr ⟨valid, rfl⟩, ok_bind, free]
    rfl

theorem addHub_step {done : Published HubList Nat} (success : hubs.addHub update = .ok done) :
    hubs.Step done.events done.owner := by
  obtain ⟨_, _, _, _, rfl⟩ := addHub_ok_iff.mp success
  exact .add _ rfl

/-- A hub is edited if it is there, no other hub has the address that is given, and all fields are
valid. -/
theorem updateHub_ok_iff {done : Published HubList Unit} :
    hubs.updateHub token update = .ok done ↔
      ∃ hub, hubs.get? token = some hub ∧
        (∀ url ∈ update.url, hubs.isTaken url (some token) = false) ∧ update.Valid hub ∧
          done =
            ⟨hubs.modify token fun _ => update.onto hub, [.updated token FavoriteHub.properties.ids],
              ()⟩ := by
  constructor
  · intro success
    obtain ⟨hub, found, success⟩ := of_bind_ok success
    have there := find_ok found
    dsimp only at success
    split at success
    · rename_i url given
      split at success
      · cases success
      · rename_i free
        obtain ⟨edited, applied, success⟩ := of_bind_ok success
        obtain ⟨valid, rfl⟩ := HubUpdate.apply_ok_iff.mp applied
        refine ⟨hub, there, ?_, valid, (of_pure_ok success).symm⟩
        rw [given]
        simpa using free
    · rename_i kept
      obtain ⟨edited, applied, success⟩ := of_bind_ok success
      obtain ⟨valid, rfl⟩ := HubUpdate.apply_ok_iff.mp applied
      exact ⟨hub, there, by simp [kept], valid, (of_pure_ok success).symm⟩
  · rintro ⟨hub, there, free, valid, rfl⟩
    have applied := HubUpdate.apply_ok_iff.mpr ⟨valid, rfl⟩
    rw [updateHub, find_some there, ok_bind]
    cases given : update.url with
    | none =>
        dsimp only
        rw [applied]
        rfl
    | some url =>
        dsimp only
        rw [free url given, applied]
        rfl

theorem updateHub_step (sound : hubs.Sound FavoriteHub.token) {done : Published HubList Unit}
    (success : hubs.updateHub token update = .ok done) : hubs.Step done.events done.owner := by
  obtain ⟨hub, there, _, valid, rfl⟩ := updateHub_ok_iff.mp success
  have edit : hub.Edit (update.onto hub) _ := .update update (HubUpdate.apply_ok_iff.mpr ⟨valid, rfl⟩)
  exact (Catalog.Revision.editOne sound there edit rfl).step

theorem removeHub_revision {done : Published HubList FavoriteHub}
    (success : hubs.removeHub token = .ok done) : hubs.Revision done.events done.owner := by
  obtain ⟨hub, found, success⟩ := of_bind_ok success
  rw [← of_pure_ok success]
  exact .dropOne (find_ok found)

theorem setConnectState_revision (sound : hubs.Sound FavoriteHub.token) {state : ConnectState}
    {done : Published HubList Unit} (success : hubs.setConnectState token state = .ok done) :
    hubs.Revision done.events done.owner := by
  obtain ⟨hub, found, success⟩ := of_bind_ok success
  split at success
  · rw [← of_pure_ok success]
    exact .rest
  · rename_i other
    rw [← of_pure_ok success]
    exact .editOne sound (find_ok found) (FavoriteHub.Connects.connect state other) rfl

/-- Every operation but those that save and edit a hub only revises the list. -/
theorem operate_revision (sound : hubs.Sound FavoriteHub.token) (operation : HubOperation) :
    (∃ update, operation = .addHub update) ∨ (∃ token update, operation = .updateHub token update) ∨
      hubs.Revision (hubs.operate operation).events (hubs.operate operation).owner := by
  cases operation with
  | addHub update => exact .inl ⟨update, rfl⟩
  | updateHub token update => exact .inr (.inl ⟨token, update, rfl⟩)
  | removeHub token => exact .inr (.inr (Catalog.settled_revision removeHub_revision))
  | setConnectState token state =>
      exact .inr (.inr (Catalog.settled_revision (setConnectState_revision sound)))

theorem keeper_steps : keeper.Steps FavoriteHub.Edit where
  start := rfl
  step sound operation := by
    rcases operate_revision sound operation with ⟨update, rfl⟩ | ⟨token, update, rfl⟩ | revision
    · exact Catalog.settled_step addHub_step
    · exact Catalog.settled_step (updateHub_step sound)
    · exact (revision.imp FavoriteHub.Connects.edit).step
  refused {_ operation _} refusal := by
    cases operation <;> exact Published.settled_error refusal

end HubList

end LiveList
