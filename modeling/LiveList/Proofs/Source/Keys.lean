import LiveList.Proofs.Hub.Steps
import LiveList.Proofs.Queue.Steps
import LiveList.Proofs.Source.Apart

/-!
The keys of bundles and hubs. The targets of bundles and the addresses of hubs are unique and, like
the names, not empty. An operation is refused exactly if this would not hold after it, or if it puts
a share profile where there can be none. An edit of a hub is compared with the other hubs only, so
that the hub can keep its own address in any letter case.
-/

namespace LiveList

namespace Queue

variable {queue : Queue}

structure KeysHeld (queue : Queue) : Prop where
  targets : queue.Apart Bundle.target (· = ·)
  given : queue.Every fun bundle => bundle.name ≠ "" ∧ bundle.target ≠ ""

theorem keysHeld_add_iff (held : KeysHeld queue) (sound : queue.Sound Bundle.token)
    {bundle : Bundle} :
    KeysHeld (queue.add bundle) ↔
      bundle.name ≠ "" ∧ bundle.target ≠ "" ∧
        ∀ other ∈ queue.items, other.target ≠ bundle.target := by
  rw [← and_assoc, ← Catalog.apart_add_iff held.targets sound, ← Catalog.every_add_iff held.given]
  exact ⟨fun all => ⟨all.given, all.targets⟩, fun all => ⟨all.2, all.1⟩⟩

theorem addBundle_accepted_iff (held : KeysHeld queue) (sound : queue.Sound Bundle.token)
    (now : Nat) (params : NewBundle) :
    (queue.operate (.addBundle now params)).result = .ok () ↔
      KeysHeld (queue.add (params.bundle queue.nextToken now)) := by
  rw [operate, Published.settled_ok_iff, keysHeld_add_iff held sound]
  constructor
  · rintro ⟨done, success⟩
    obtain ⟨named, placed, free, _⟩ := addBundle_ok_iff.mp success
    exact ⟨named, placed, free⟩
  · rintro ⟨named, placed, free⟩
    exact ⟨_, addBundle_ok_iff.mpr ⟨named, placed, free, rfl⟩⟩

theorem addBundle_owner {now : Nat} {params : NewBundle}
    (accepted : (queue.operate (.addBundle now params)).result = .ok ()) :
    (queue.operate (.addBundle now params)).owner =
      queue.add (params.bundle queue.nextToken now) := by
  obtain ⟨done, success⟩ := Published.settled_ok_iff.mp accepted
  rw [operate, success, (addBundle_ok_iff.mp success).2.2.2]
  rfl

theorem keysHeld_run (operations : List QueueOperation) : KeysHeld (keeper.after operations) := by
  refine keeper_steps.keeps ⟨.start, .start⟩ ?_ operations
  intro queue sound held operation
  rcases operate_revision sound operation with ⟨now, params, rfl⟩ | revision
  · refine Published.settled_keeps held fun {done} success => ?_
    obtain ⟨named, placed, free, rfl⟩ := addBundle_ok_iff.mp success
    exact (keysHeld_add_iff held sound).mpr ⟨named, placed, free⟩
  · constructor
    · exact held.targets.revise revision sound fun edit => by cases edit <;> rfl
    · exact revision.every sound held.given fun edit given => by cases edit <;> exact given

/-- The keys are as they should be, and a bundle is queued exactly if they are so with it. -/
structure KeysGuarded (queue : Queue) : Prop where
  held : KeysHeld queue
  add_iff : ∀ now params,
    (queue.operate (.addBundle now params)).result = .ok () ↔
      KeysHeld (queue.add (params.bundle queue.nextToken now))
  added : ∀ now params, (queue.operate (.addBundle now params)).result = .ok () →
    (queue.operate (.addBundle now params)).owner = queue.add (params.bundle queue.nextToken now)
  refused : ∀ operation error, (queue.operate operation).result = .error error →
    (queue.operate operation).owner = queue ∧ (queue.operate operation).events = []

end Queue

def SameAddress (a b : String) : Prop := Text.sameAscii a b = true

instance : Std.Symm SameAddress where
  symm _ _ same := Text.sameAscii_iff.mpr (Text.sameAscii_iff.mp same).symm

theorem SameAddress.blank_iff {a b : String} (same : SameAddress a b) :
    Text.Blank a.toList ↔ Text.Blank b.toList := by
  rw [← Text.blank_lowerAscii, Text.sameAscii_iff.mp same, Text.blank_lowerAscii]

namespace HubUpdate

variable {update : HubUpdate} {hub : FavoriteHub}

/-- If a value has a property, then a value that is given in its place has it exactly if the value
that is there in the end has it. -/
theorem forall_given_iff {Value : Type} (Holds : Value → Prop) (given : Option Value) {kept : Value}
    (holds : Holds kept) : (∀ value ∈ given, Holds value) ↔ Holds (given.getD kept) := by
  cases given with
  | none => simp [holds]
  | some value => simp

/-- A text that is required is given and not blank. -/
theorem required_iff (given : Option String) :
    (given ≠ none ∧ ∀ text ∈ given, ¬ Text.Blank text.toList) ↔
      ¬ Text.Blank (given.getD "").toList := by
  cases given with
  | none => simp [Text.Blank]
  | some text => simp

theorem valid_iff (update : HubUpdate)
    (given : ¬ Text.Blank hub.name.toList ∧ ¬ Text.Blank hub.url.toList) :
    update.Valid hub ↔
      (¬ Text.Blank (update.onto hub).name.toList ∧ ¬ Text.Blank (update.onto hub).url.toList) ∧
        update.FitsProfile hub := by
  have name := forall_given_iff (fun name => ¬ Text.Blank name.toList) update.name given.1
  have url := forall_given_iff (fun url => ¬ Text.Blank url.toList) update.url given.2
  exact ⟨fun valid => ⟨⟨name.mp valid.name, url.mp valid.url⟩, valid.profile⟩,
    fun fits => ⟨name.mpr fits.1.1, url.mpr fits.1.2, fits.2⟩⟩

/-- For a hub that is saved, name and address are required. -/
theorem required_valid_iff (update : HubUpdate) (token : Nat) :
    update.name ≠ none ∧ update.url ≠ none ∧ update.Valid { token } ↔
      (¬ Text.Blank (update.onto { token }).name.toList ∧
        ¬ Text.Blank (update.onto { token }).url.toList) ∧ update.FitsProfile { token } := by
  have name := required_iff update.name
  have url := required_iff update.url
  constructor
  · rintro ⟨named, placed, valid⟩
    exact ⟨⟨name.mp ⟨named, valid.name⟩, url.mp ⟨placed, valid.url⟩⟩, valid.profile⟩
  · rintro ⟨⟨named, placed⟩, fits⟩
    exact ⟨(name.mpr named).1, (url.mpr placed).1, (name.mpr named).2, (url.mpr placed).2, fits⟩

end HubUpdate

namespace HubList

variable {hubs : HubList} {token : Nat} {hub : FavoriteHub} {update : HubUpdate}

structure KeysHeld (hubs : HubList) : Prop where
  addresses : hubs.Apart FavoriteHub.url SameAddress
  given : hubs.Every fun hub => ¬ Text.Blank hub.name.toList ∧ ¬ Text.Blank hub.url.toList

theorem isTaken_none_iff {url : String} :
    hubs.isTaken url none = false ↔ ∀ other ∈ hubs.items, ¬ SameAddress other.url url := by
  simp [isTaken, SameAddress]

theorem isTaken_some_iff {url : String} :
    hubs.isTaken url (some token) = false ↔
      ∀ other ∈ hubs.items, other.token ≠ token → ¬ SameAddress other.url url := by
  simp [isTaken, SameAddress]

theorem keysHeld_add_iff (held : KeysHeld hubs) (sound : hubs.Sound FavoriteHub.token) :
    KeysHeld (hubs.add hub) ↔
      (¬ Text.Blank hub.name.toList ∧ ¬ Text.Blank hub.url.toList) ∧
        hubs.isTaken hub.url none = false := by
  rw [isTaken_none_iff, ← Catalog.apart_add_iff held.addresses sound,
    ← Catalog.every_add_iff held.given]
  exact ⟨fun all => ⟨all.given, all.addresses⟩, fun all => ⟨all.2, all.1⟩⟩

theorem keysHeld_modify_iff (held : KeysHeld hubs) (sound : hubs.Sound FavoriteHub.token)
    (listed : token ∈ hubs.tokens) :
    KeysHeld (hubs.modify token fun _ => hub) ↔
      (¬ Text.Blank hub.name.toList ∧ ¬ Text.Blank hub.url.toList) ∧
        hubs.isTaken hub.url (some token) = false := by
  rw [isTaken_some_iff, ← Catalog.apart_modify_iff held.addresses sound listed,
    ← Catalog.every_modify_iff held.given listed]
  exact ⟨fun all => ⟨all.given, all.addresses⟩, fun all => ⟨all.2, all.1⟩⟩

theorem not_taken (held : KeysHeld hubs) (sound : hubs.Sound FavoriteHub.token)
    (there : hubs.get? token = some hub) : hubs.isTaken hub.url (some token) = false := by
  rw [isTaken_some_iff]
  intro other listed elsewhere
  obtain ⟨place, found⟩ := sound.mem_items_iff.mp listed
  rw [sound.keyed found] at elsewhere
  exact held.addresses elsewhere found there

theorem addHub_accepted_iff (held : KeysHeld hubs) (sound : hubs.Sound FavoriteHub.token)
    (update : HubUpdate) :
    (hubs.operate (.addHub update)).result = .ok () ↔
      KeysHeld (hubs.add (update.onto { token := hubs.nextToken })) ∧
        update.FitsProfile { token := hubs.nextToken } := by
  rw [operate, Published.settled_ok_iff, keysHeld_add_iff held sound]
  have required := HubUpdate.required_valid_iff update hubs.nextToken
  constructor
  · rintro ⟨done, success⟩
    obtain ⟨named, placed, valid, free, _⟩ := addHub_ok_iff.mp success
    obtain ⟨given, fits⟩ := required.mp ⟨named, placed, valid⟩
    exact ⟨⟨given, free⟩, fits⟩
  · rintro ⟨⟨given, free⟩, fits⟩
    obtain ⟨named, placed, valid⟩ := required.mpr ⟨given, fits⟩
    exact ⟨_, addHub_ok_iff.mpr ⟨named, placed, valid, free, rfl⟩⟩

theorem updateHub_accepted_iff (held : KeysHeld hubs) (sound : hubs.Sound FavoriteHub.token)
    (there : hubs.get? token = some hub) (update : HubUpdate) :
    (hubs.operate (.updateHub token update)).result = .ok () ↔
      KeysHeld (hubs.modify token fun _ => update.onto hub) ∧ update.FitsProfile hub := by
  have listed : token ∈ hubs.tokens := Catalog.mem_tokens.mpr ⟨hub, there⟩
  rw [operate, Published.settled_ok_iff, keysHeld_modify_iff held sound listed]
  have valid := HubUpdate.valid_iff update (held.given.get there)
  have free := HubUpdate.forall_given_iff (fun url => hubs.isTaken url (some token) = false)
    update.url (not_taken held sound there)
  constructor
  · rintro ⟨done, success⟩
    obtain ⟨other, found, unused, fields, _⟩ := updateHub_ok_iff.mp success
    rw [there, Option.some.injEq] at found
    obtain ⟨given, fits⟩ := valid.mp (found ▸ fields)
    exact ⟨⟨given, free.mp unused⟩, fits⟩
  · rintro ⟨⟨given, unused⟩, fits⟩
    exact ⟨_, updateHub_ok_iff.mpr
      ⟨hub, there, free.mpr unused, valid.mpr ⟨given, fits⟩, rfl⟩⟩

theorem addHub_owner (accepted : (hubs.operate (.addHub update)).result = .ok ()) :
    (hubs.operate (.addHub update)).owner = hubs.add (update.onto { token := hubs.nextToken }) := by
  obtain ⟨done, success⟩ := Published.settled_ok_iff.mp accepted
  obtain ⟨_, _, _, _, made⟩ := addHub_ok_iff.mp success
  rw [operate, success, made]
  rfl

theorem updateHub_owner (there : hubs.get? token = some hub)
    (accepted : (hubs.operate (.updateHub token update)).result = .ok ()) :
    (hubs.operate (.updateHub token update)).owner =
      hubs.modify token fun _ => update.onto hub := by
  obtain ⟨done, success⟩ := Published.settled_ok_iff.mp accepted
  obtain ⟨other, found, _, _, made⟩ := updateHub_ok_iff.mp success
  rw [there, Option.some.injEq] at found
  rw [operate, success, made, found]
  rfl

theorem keysHeld_run (operations : List HubOperation) : KeysHeld (keeper.after operations) := by
  refine keeper_steps.keeps ⟨.start, .start⟩ ?_ operations
  intro hubs sound held operation
  rcases operate_revision sound operation with ⟨update, rfl⟩ | ⟨token, update, rfl⟩ | revision
  · refine Published.settled_keeps held fun {done} success => ?_
    have accepted := (addHub_accepted_iff held sound update).mp
      (Published.settled_ok_iff.mpr ⟨done, success⟩)
    obtain ⟨_, _, _, _, rfl⟩ := addHub_ok_iff.mp success
    exact accepted.1
  · refine Published.settled_keeps held fun {done} success => ?_
    obtain ⟨hub, there, _, _, made⟩ := updateHub_ok_iff.mp success
    have accepted := (updateHub_accepted_iff held sound there update).mp
      (Published.settled_ok_iff.mpr ⟨done, success⟩)
    rw [made]
    exact accepted.1
  · constructor
    · exact held.addresses.revise revision sound fun connects => by cases connects; rfl
    · exact revision.every sound held.given fun connects given => by cases connects; exact given

/-- An edit that names the hub's own address, in whatever letter case, takes nothing from others. -/
theorem updateHub_own (held : KeysHeld hubs) (sound : hubs.Sound FavoriteHub.token)
    (there : hubs.get? token = some hub) {update : HubUpdate}
    (own : ∀ url ∈ update.url, SameAddress hub.url url)
    (named : ∀ name ∈ update.name, ¬ Text.Blank name.toList) (fits : update.FitsProfile hub) :
    (hubs.operate (.updateHub token update)).result = .ok () := by
  have given := held.given.get there
  have valid : update.Valid hub :=
    ⟨named, fun url member => mt (own url member).blank_iff.mpr given.2, fits⟩
  have free : ∀ url ∈ update.url, hubs.isTaken url (some token) = false := by
    intro url member
    rw [isTaken_some_iff]
    intro other listed elsewhere same
    exact isTaken_some_iff.mp (not_taken held sound there) other listed elsewhere
      (Text.sameAscii_iff.mpr ((Text.sameAscii_iff.mp same).trans
        (Text.sameAscii_iff.mp (own url member)).symm))
  exact Published.settled_ok_iff.mpr ⟨_, updateHub_ok_iff.mpr ⟨hub, there, free, valid, rfl⟩⟩

/-- The keys are as they should be, and a hub is saved or edited exactly if they are so then and its
share profile fits. -/
structure KeysGuarded (hubs : HubList) : Prop where
  held : KeysHeld hubs
  add_iff : ∀ update, (hubs.operate (.addHub update)).result = .ok () ↔
    KeysHeld (hubs.add (update.onto { token := hubs.nextToken })) ∧
      update.FitsProfile { token := hubs.nextToken }
  added : ∀ update, (hubs.operate (.addHub update)).result = .ok () →
    (hubs.operate (.addHub update)).owner = hubs.add (update.onto { token := hubs.nextToken })
  update_iff : ∀ token hub update, hubs.get? token = some hub →
    ((hubs.operate (.updateHub token update)).result = .ok () ↔
      KeysHeld (hubs.modify token fun _ => update.onto hub) ∧ update.FitsProfile hub)
  updated : ∀ token hub update, hubs.get? token = some hub →
    (hubs.operate (.updateHub token update)).result = .ok () →
      (hubs.operate (.updateHub token update)).owner = hubs.modify token fun _ => update.onto hub
  /-- Any spelling of its own address is accepted for a hub. -/
  own : ∀ token hub update, hubs.get? token = some hub →
    (∀ url ∈ update.url, SameAddress hub.url url) →
      (∀ name ∈ update.name, ¬ Text.Blank name.toList) → update.FitsProfile hub →
        (hubs.operate (.updateHub token update)).result = .ok ()
  refused : ∀ operation error, (hubs.operate operation).result = .error error →
    (hubs.operate operation).owner = hubs ∧ (hubs.operate operation).events = []

end HubList

/-- After all operations, the keys of bundles and of hubs are guarded. -/
theorem keys_guarded (queueOperations : List QueueOperation) (hubOperations : List HubOperation) :
    Queue.KeysGuarded (Queue.keeper.after queueOperations) ∧
      HubList.KeysGuarded (HubList.keeper.after hubOperations) := by
  constructor
  · have held := Queue.keysHeld_run queueOperations
    have sound := Queue.keeper_steps.sound queueOperations
    exact
      { held
        add_iff := Queue.addBundle_accepted_iff held sound
        added := fun _ _ => Queue.addBundle_owner
        refused := fun _ _ => Queue.keeper_steps.refused }
  · have held := HubList.keysHeld_run hubOperations
    have sound := HubList.keeper_steps.sound hubOperations
    exact
      { held
        add_iff := HubList.addHub_accepted_iff held sound
        added := fun _ => HubList.addHub_owner
        update_iff := fun _ _ update there => HubList.updateHub_accepted_iff held sound there update
        updated := fun _ _ _ => HubList.updateHub_owner
        own := fun _ _ _ there => HubList.updateHub_own held sound there
        refused := fun _ _ => HubList.keeper_steps.refused }

example : (HubList.operate
    (HubList.keeper.after [.addHub { name := some "hub", url := some "adc://hub" }])
    (.updateHub 1 { url := some "ADC://Hub" })).result = .ok () := rfl

end LiveList
