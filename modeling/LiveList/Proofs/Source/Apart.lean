import LiveList.Proofs.Source.Step

/-!
Items that are kept apart: no two of them clash in a field. Adding or editing an item keeps them
apart exactly if the item clashes with no other one, and revisions that leave the field alone
always do.
-/

namespace LiveList.Catalog

variable {Item Key : Type} {key : Item → Nat} {edits : Item → Item → List PropertySet → Prop}
  {catalog after : Catalog Item} {events : List ItemEvent} {token : Nat} {item : Item}

section Every

variable {holds : Item → Prop}

theorem every_add_iff (every : catalog.Every holds) :
    (catalog.add item).Every holds ↔ holds item :=
  ⟨fun all => all item (by simp [items, Catalog.add]), every.add⟩

theorem every_modify_iff (every : catalog.Every holds) (listed : token ∈ catalog.tokens) :
    (catalog.modify token fun _ => item).Every holds ↔ holds item :=
  ⟨fun all => all.get (get?_put listed), fun new => every.modify fun _ _ => new⟩

theorem Revision.every (revision : Revision key edits catalog events after)
    (sound : catalog.Sound key) (every : catalog.Every holds)
    (kept : ∀ {old new reports}, edits old new reports → holds old → holds new) :
    after.Every holds := by
  intro item member
  obtain ⟨token, there⟩ := (revision.step.sound sound).mem_items_iff.mp member
  obtain ⟨old, found, rfl | ⟨reports, edited⟩⟩ := revision.before sound there
  · exact every.get found
  · exact kept edited (every.get found)

end Every

variable {field : Item → Key} {clash : Key → Key → Prop}

def Apart (field : Item → Key) (clash : Key → Key → Prop) (catalog : Catalog Item) : Prop :=
  ∀ ⦃first second a b⦄, first ≠ second → catalog.get? first = some a →
    catalog.get? second = some b → ¬ clash (field a) (field b)

theorem Apart.start : Apart field clash {} := nofun

theorem Apart.revise (apart : catalog.Apart field clash)
    (revision : Revision key edits catalog events after) (sound : catalog.Sound key)
    (kept : ∀ {old new reports}, edits old new reports → field new = field old) :
    after.Apart field clash := by
  have before {token : Nat} {new : Item} (there : after.get? token = some new) :
      ∃ old, catalog.get? token = some old ∧ field new = field old := by
    obtain ⟨old, found, rfl | ⟨reports, edited⟩⟩ := revision.before sound there
    · exact ⟨new, found, rfl⟩
    · exact ⟨old, found, kept edited⟩
  intro first second a b different there here
  obtain ⟨olda, founda, samea⟩ := before there
  obtain ⟨oldb, foundb, sameb⟩ := before here
  rw [samea, sameb]
  exact apart different founda foundb

/-- If one item is put down, the items are kept apart exactly if it clashes with no other one. -/
theorem Apart.put_iff [Std.Symm clash] (apart : catalog.Apart field clash)
    (put : after.get? token = some item)
    (others : ∀ {place}, place ≠ token → after.get? place = catalog.get? place) :
    after.Apart field clash ↔
      ∀ place other, place ≠ token → catalog.get? place = some other →
        ¬ clash (field other) (field item) := by
  constructor
  · intro kept place other elsewhere found
    exact kept elsewhere ((others elsewhere).trans found) put
  · intro free first second a b different there here
    by_cases firstHere : first = token
    · subst firstHere
      rw [put, Option.some.injEq] at there
      rw [others (Ne.symm different)] at here
      rw [← there]
      exact fun clashing => free second b (Ne.symm different) here (Std.Symm.symm _ _ clashing)
    · rw [others firstHere] at there
      by_cases secondHere : second = token
      · subst secondHere
        rw [put, Option.some.injEq] at here
        rw [← here]
        exact free first a different there
      · rw [others secondHere] at here
        exact apart different there here

theorem apart_add_iff [Std.Symm clash] (apart : catalog.Apart field clash)
    (sound : catalog.Sound key) :
    (catalog.add item).Apart field clash ↔
      ∀ other ∈ catalog.items, ¬ clash (field other) (field item) := by
  have put : (catalog.add item).get? catalog.nextToken = some item := by
    rw [get?_add sound.fresh, if_pos rfl]
  rw [apart.put_iff put fun elsewhere => by rw [get?_add sound.fresh, if_neg elsewhere]]
  constructor
  · intro free other member
    obtain ⟨place, found⟩ := sound.mem_items_iff.mp member
    have elsewhere : place ≠ catalog.nextToken := fun same =>
      sound.fresh (same ▸ mem_tokens.mpr ⟨other, found⟩)
    exact free place other elsewhere found
  · intro free place other _ found
    exact free other (mem_items found)

theorem apart_modify_iff [Std.Symm clash] (apart : catalog.Apart field clash)
    (sound : catalog.Sound key) (listed : token ∈ catalog.tokens) :
    (catalog.modify token fun _ => item).Apart field clash ↔
      ∀ other ∈ catalog.items, key other ≠ token → ¬ clash (field other) (field item) := by
  rw [apart.put_iff (get?_put listed) fun elsewhere => by rw [get?_modify, if_neg elsewhere]]
  constructor
  · intro free other member elsewhere
    obtain ⟨place, found⟩ := sound.mem_items_iff.mp member
    exact free place other (sound.keyed found ▸ elsewhere) found
  · intro free place other elsewhere found
    exact free other (mem_items found) ((sound.keyed found).symm ▸ elsewhere)

end LiveList.Catalog
