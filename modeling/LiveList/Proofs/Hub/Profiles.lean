import LiveList.Proofs.Hub.Steps
import LiveList.Proofs.Source.Apart

/-!
Share profiles of favorite hubs, which are for ADC hubs only. This is checked when an update gives a
profile. An update that gives a new address only is not checked, and can leave a profile where there
should be none. No other operation can.
-/

namespace LiveList

def FavoriteHub.ProfileFits (hub : FavoriteHub) : Prop :=
  hub.shareProfile.isSome = true → hub.isAdc = true

instance (hub : FavoriteHub) : Decidable hub.ProfileFits :=
  inferInstanceAs (Decidable (hub.shareProfile.isSome = true → hub.isAdc = true))

namespace HubUpdate

variable {update : HubUpdate} {hub : FavoriteHub}

/-- An update that moves a hub with a profile to an address that is not for ADC, without a word
about the profile. -/
def Abandons (update : HubUpdate) (hub : FavoriteHub) : Prop :=
  hub.shareProfile.isSome = true ∧ update.shareProfile = none ∧
    ∃ url ∈ update.url, FavoriteHub.isAdcUrl url = false

/-- After a valid update of a hub, its profile fits unless the update abandons it. -/
theorem profileFits_onto_iff (valid : update.Valid hub) (fits : hub.ProfileFits) :
    (update.onto hub).ProfileFits ↔ ¬ update.Abandons hub := by
  cases profile : update.shareProfile with
  | some given =>
      have kept : (update.onto hub).shareProfile = given := by simp [onto, profile]
      have fit : (update.onto hub).ProfileFits := fun some =>
        valid.profile given profile (kept ▸ some)
      exact ⟨fun _ abandons => by simp [Abandons, profile] at abandons, fun _ => fit⟩
  | none =>
      have kept : (update.onto hub).shareProfile = hub.shareProfile := by simp [onto, profile]
      cases address : update.url with
      | none =>
          have same : (update.onto hub).isAdc = hub.isAdc := by
            simp [onto, FavoriteHub.isAdc, address]
          have fit : (update.onto hub).ProfileFits := by
            rw [FavoriteHub.ProfileFits, kept, same]
            exact fits
          exact ⟨fun _ abandons => by simp [Abandons, address] at abandons, fun _ => fit⟩
      | some url =>
          have moved : (update.onto hub).isAdc = FavoriteHub.isAdcUrl url := by
            simp [onto, FavoriteHub.isAdc, address]
          simp [FavoriteHub.ProfileFits, Abandons, kept, moved, profile, address]

end HubUpdate

namespace HubList

variable {hubs : HubList}

def Strands (hubs : HubList) : HubOperation → Prop
  | .updateHub token update =>
      (hubs.operate (.updateHub token update)).result = .ok () ∧
        ∃ hub, hubs.get? token = some hub ∧ update.Abandons hub
  | .addHub _ | .removeHub _ | .setConnectState _ _ => False

theorem updateHub_profileFits_iff
    (every : hubs.Every FavoriteHub.ProfileFits) (token : Nat) (update : HubUpdate) :
    (hubs.operate (.updateHub token update)).owner.Every FavoriteHub.ProfileFits ↔
      ¬ hubs.Strands (.updateHub token update) := by
  cases outcome : hubs.updateHub token update with
  | error error =>
      have refused : hubs.operate (.updateHub token update) = .unchanged hubs (.error error) := by
        rw [operate, outcome]
        rfl
      rw [Strands, refused]
      exact ⟨fun _ stranded => (nomatch stranded.1), fun _ => every⟩
  | ok done =>
      obtain ⟨hub, there, _, valid, made⟩ := updateHub_ok_iff.mp outcome
      have accepted : hubs.operate (.updateHub token update) = done.respond (.ok ()) := by
        rw [operate, outcome]
        rfl
      have listed : token ∈ hubs.tokens := Catalog.mem_tokens.mpr ⟨hub, there⟩
      rw [Strands, accepted, made]
      show (hubs.modify token fun _ => update.onto hub).Every _ ↔ _
      rw [Catalog.every_modify_iff every listed,
        HubUpdate.profileFits_onto_iff valid (every.get there)]
      simp [there, Published.respond]

/-- All profiles still fit after an operation, unless it strands one. -/
theorem every_profileFits_iff (sound : hubs.Sound FavoriteHub.token)
    (every : hubs.Every FavoriteHub.ProfileFits) (operation : HubOperation) :
    (hubs.operate operation).owner.Every FavoriteHub.ProfileFits ↔ ¬ hubs.Strands operation := by
  have revised {events : List ItemEvent} {after : HubList} (revision : hubs.Revision events after) :
      after.Every FavoriteHub.ProfileFits :=
    revision.every sound every fun connects fits => by
      cases connects
      exact fits
  cases operation with
  | addHub update =>
      refine ⟨fun _ => id, fun _ => Published.settled_keeps every fun {done} success => ?_⟩
      obtain ⟨_, _, valid, _, rfl⟩ := addHub_ok_iff.mp success
      refine every.add ((HubUpdate.profileFits_onto_iff valid nofun).mpr ?_)
      exact fun abandons => nomatch abandons.1
  | updateHub token update => exact updateHub_profileFits_iff every token update
  | removeHub token =>
      exact ⟨fun _ => id, fun _ => revised (Catalog.settled_revision removeHub_revision)⟩
  | setConnectState token state =>
      exact ⟨fun _ => id, fun _ => revised (Catalog.settled_revision (setConnectState_revision sound))⟩

/-- At all times hubs with share profiles are ADC hubs, unless some operation strands a profile. -/
theorem profilesFit_iff (operations : List HubOperation) :
    (∀ past, past <+: operations → (keeper.after past).Every FavoriteHub.ProfileFits) ↔
      ∀ (past : List HubOperation) (operation : HubOperation), past ++ [operation] <+: operations →
        ¬ Strands (keeper.after past) operation := by
  have step (past : List keeper.Operation) (operation : keeper.Operation)
      (every : (keeper.after past).Every FavoriteHub.ProfileFits) :
      (keeper.after (past ++ [operation])).Every FavoriteHub.ProfileFits ↔
        ¬ Strands (keeper.after past) operation := by
    rw [keeper.after_concat past operation]
    exact every_profileFits_iff (keeper_steps.sound past) every operation
  constructor
  · intro fits past operation within
    have before : past <+: operations := (List.prefix_append past [operation]).trans within
    exact (step past operation (fits past before)).mp (fits _ within)
  · intro kept past
    induction past using List.reverseRecOn with
    | nil => exact fun _ => Catalog.Every.start
    | append_singleton past operation ih =>
        intro within
        have before : past <+: operations := (List.prefix_append past [operation]).trans within
        exact (step past operation (ih before)).mpr (kept past operation within)

def movedHub : List HubOperation :=
  [.addHub { name := some "hub", url := some "adc://hub", shareProfile := some (some 3) },
    .updateHub 1 { url := some "dchub://hub" }]

theorem movedHub_stranded : ¬ (keeper.after movedHub).Every FavoriteHub.ProfileFits := by
  intro every
  refine absurd (every
    { token := 1, name := "hub", url := "dchub://hub", shareProfile := some 3 } (.head _)) ?_
  decide

end HubList

end LiveList
