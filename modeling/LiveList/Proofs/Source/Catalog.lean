import LiveList.Proofs.Assoc
import LiveList.Source.Catalog

/-!
Catalogs, looked up after an operation: what is done under one token leaves the items under all
other tokens alone. A catalog that was built up from nothing lists ascending tokens, all of them
below the one that it gives out next.
-/

namespace LiveList.Catalog

variable {Item : Type} {catalog : Catalog Item} {token other : Nat} {item : Item}

theorem mem_tokens : token ∈ catalog.tokens ↔ ∃ item, catalog.get? token = some item := by
  rw [← Option.isSome_iff_exists]
  exact Assoc.contains_iff.symm

theorem get?_eq_none : catalog.get? token = none ↔ token ∉ catalog.tokens :=
  Assoc.get?_eq_none

section Add

theorem tokens_add (catalog : Catalog Item) (item : Item) :
    (catalog.add item).tokens = catalog.tokens ++ [catalog.nextToken] := by
  simp [tokens, add]

theorem get?_add (fresh : catalog.nextToken ∉ catalog.tokens) (item : Item) (other : Nat) :
    (catalog.add item).get? other =
      if other = catalog.nextToken then some item else catalog.get? other := by
  have last := Assoc.set_absent item fresh
  exact (congrArg (Assoc.get? · other) last.symm).trans (Assoc.get?_set ..)

end Add

section Modify

@[simp]
theorem nextToken_modify (catalog : Catalog Item) (token : Nat) (change : Item → Item) :
    (catalog.modify token change).nextToken = catalog.nextToken := by
  unfold modify
  split <;> rfl

@[simp]
theorem tokens_modify (catalog : Catalog Item) (token : Nat) (change : Item → Item) :
    (catalog.modify token change).tokens = catalog.tokens := by
  unfold modify
  split
  · rename_i item found
    exact Assoc.keys_set_present _ (mem_tokens.mpr ⟨item, found⟩)
  · rfl

theorem get?_modify (catalog : Catalog Item) (token other : Nat) (change : Item → Item) :
    (catalog.modify token change).get? other =
      if other = token then (catalog.get? other).map change else catalog.get? other := by
  unfold modify
  split
  · rename_i item found
    refine (Assoc.get?_set ..).trans ?_
    split
    · rename_i same
      rw [same, found, Option.map_some]
    · rfl
  · rename_i missing
    split
    · rename_i same
      rw [same, missing, Option.map_none]
    · rfl

theorem get?_put (listed : token ∈ catalog.tokens) :
    (catalog.modify token fun _ => item).get? token = some item := by
  obtain ⟨old, found⟩ := mem_tokens.mp listed
  rw [get?_modify, if_pos rfl, found, Option.map_some]

/-- Only what becomes of the item itself counts. -/
theorem modify_congr {change different : Item → Item} (found : catalog.get? token = some item)
    (same : change item = different item) :
    catalog.modify token change = catalog.modify token different := by
  simp only [modify, found, same]

theorem modify_same {change : Item → Item} (found : catalog.get? token = some item)
    (same : change item = item) : catalog.modify token change = catalog := by
  simp only [modify, found, same]
  rw [Assoc.set_same found]

end Modify

section Drop

@[simp]
theorem nextToken_drop (catalog : Catalog Item) (token : Nat) :
    (catalog.drop token).nextToken = catalog.nextToken := by
  unfold drop
  split <;> rfl

theorem tokens_drop (catalog : Catalog Item) (token : Nat) :
    (catalog.drop token).tokens = catalog.tokens.filter (· ≠ token) := by
  unfold drop
  split
  · simp [tokens, Assoc.erase, List.filter_map, Function.comp_def]
  · rename_i missing
    symm
    rw [List.filter_eq_self]
    intro other member
    have apart : other ≠ token := fun same => get?_eq_none.mp missing (same ▸ member)
    simpa using apart

theorem get?_drop (catalog : Catalog Item) (token other : Nat) :
    (catalog.drop token).get? other = if other = token then none else catalog.get? other := by
  unfold drop
  split
  · exact Assoc.get?_erase ..
  · rename_i missing
    split
    · rename_i same
      rw [same, missing]
    · rfl

end Drop

section Several

@[simp]
theorem get?_drops (tokens : List Nat) (catalog : Catalog Item) (other : Nat) :
    (tokens.foldl drop catalog).get? other =
      if other ∈ tokens then none else catalog.get? other := by
  induction tokens generalizing catalog with
  | nil => simp
  | cons token rest ih =>
      rw [List.foldl_cons, ih, get?_drop]
      by_cases later : other ∈ rest
      · simp [later]
      · simp [later]

def modifyEach (change : Item → Item) (tokens : List Nat) (catalog : Catalog Item) :
    Catalog Item :=
  tokens.foldl (fun catalog token => catalog.modify token change) catalog

@[simp]
theorem nextToken_modifyEach (change : Item → Item) (tokens : List Nat) (catalog : Catalog Item) :
    (modifyEach change tokens catalog).nextToken = catalog.nextToken := by
  induction tokens generalizing catalog with
  | nil => rfl
  | cons token rest ih => exact (ih _).trans (nextToken_modify ..)

@[simp]
theorem tokens_modifyEach (change : Item → Item) (tokens : List Nat) (catalog : Catalog Item) :
    (modifyEach change tokens catalog).tokens = catalog.tokens := by
  induction tokens generalizing catalog with
  | nil => rfl
  | cons token rest ih => exact (ih _).trans (tokens_modify ..)

theorem get?_modifyEach {tokens : List Nat} (once : tokens.Nodup) (change : Item → Item)
    (catalog : Catalog Item) (other : Nat) :
    (modifyEach change tokens catalog).get? other =
      if other ∈ tokens then (catalog.get? other).map change else catalog.get? other := by
  induction tokens generalizing catalog with
  | nil => simp [modifyEach]
  | cons token rest ih =>
      have apart := List.nodup_cons.mp once
      have step : modifyEach change (token :: rest) catalog =
          modifyEach change rest (catalog.modify token change) := rfl
      rw [step, ih apart.2, get?_modify]
      by_cases here : other = token
      · simp [here, apart.1]
      · simp [here]

end Several

theorem mem_items (found : catalog.get? token = some item) : item ∈ catalog.items :=
  List.mem_map.mpr ⟨_, Assoc.mem_of_get? found, rfl⟩

def Every (holds : Item → Prop) (catalog : Catalog Item) : Prop :=
  ∀ item ∈ catalog.items, holds item

namespace Every

variable {holds : Item → Prop}

theorem start : Every holds {} := nofun

theorem get (every : catalog.Every holds) (found : catalog.get? token = some item) : holds item :=
  every item (mem_items found)

theorem add (every : catalog.Every holds) (new : holds item) : (catalog.add item).Every holds := by
  intro other member
  rw [items, Catalog.add, List.map_append, List.mem_append] at member
  rcases member with old | last
  · exact every other old
  · rwa [List.mem_singleton.mp last]

theorem modify (every : catalog.Every holds) {change : Item → Item}
    (changed : ∀ item, catalog.get? token = some item → holds (change item)) :
    (catalog.modify token change).Every holds := by
  unfold Catalog.modify
  split
  · rename_i old found
    intro other member
    obtain ⟨entry, there, rfl⟩ := List.mem_map.mp member
    rcases Assoc.of_mem_set there with rfl | before
    · exact changed old found
    · exact every _ (List.mem_map_of_mem before)
  · exact every

theorem modifyEach (every : catalog.Every holds) {change : Item → Item}
    (kept : ∀ item, holds item → holds (change item)) (tokens : List Nat) :
    (Catalog.modifyEach change tokens catalog).Every holds := by
  induction tokens generalizing catalog with
  | nil => exact every
  | cons token rest ih => exact ih (every.modify fun item found => kept item (every.get found))

theorem drop (every : catalog.Every holds) (token : Nat) : (catalog.drop token).Every holds := by
  unfold Catalog.drop
  split
  · exact fun other member => every other ((List.filter_sublist.map _).subset member)
  · exact every

theorem drops (every : catalog.Every holds) (tokens : List Nat) :
    (tokens.foldl Catalog.drop catalog).Every holds := by
  induction tokens generalizing catalog with
  | nil => exact every
  | cons token rest ih => exact ih (every.drop token)

end Every

/-- The tokens were given out one after the other, and every item knows its own. -/
structure Sound (key : Item → Nat) (catalog : Catalog Item) : Prop where
  ascending : catalog.tokens.Pairwise (· < ·)
  given : ∀ token ∈ catalog.tokens, token < catalog.nextToken
  keyed : ∀ {token item}, catalog.get? token = some item → key item = token

namespace Sound

variable {key : Item → Nat}

theorem start : Sound key {} := ⟨.nil, by simp [tokens], by simp [get?, Assoc.get?]⟩

theorem distinct (sound : Sound key catalog) : catalog.tokens.Nodup :=
  sound.ascending.imp Nat.ne_of_lt

theorem fresh (sound : Sound key catalog) : catalog.nextToken ∉ catalog.tokens :=
  fun listed => Nat.lt_irrefl _ (sound.given _ listed)

theorem items_keys (sound : Sound key catalog) : catalog.items.map key = catalog.tokens := by
  simp only [items, tokens, List.map_map]
  refine List.map_congr_left fun entry member => ?_
  exact sound.keyed ((Assoc.get?_iff_mem sound.distinct).mpr member)

theorem mem_items_iff (sound : Sound key catalog) :
    item ∈ catalog.items ↔ ∃ token, catalog.get? token = some item := by
  constructor
  · intro member
    obtain ⟨entry, listed, rfl⟩ := List.mem_map.mp member
    exact ⟨entry.1, (Assoc.get?_iff_mem sound.distinct).mpr listed⟩
  · rintro ⟨token, found⟩
    exact mem_items found

theorem tokensWhere_sublist (catalog : Catalog Item) (passes : Item → Bool) :
    (catalog.tokensWhere passes).Sublist catalog.tokens :=
  List.filter_sublist.map _

theorem mem_tokensWhere (sound : Sound key catalog) {passes : Item → Bool} :
    token ∈ catalog.tokensWhere passes ↔
      ∃ item, catalog.get? token = some item ∧ passes item = true := by
  constructor
  · intro member
    obtain ⟨entry, kept, rfl⟩ := List.mem_map.mp member
    have parts := List.mem_filter.mp kept
    exact ⟨entry.2, (Assoc.get?_iff_mem sound.distinct).mpr parts.1, parts.2⟩
  · rintro ⟨item, found, passed⟩
    have listed := (Assoc.get?_iff_mem sound.distinct).mp found
    exact List.mem_map.mpr ⟨_, List.mem_filter.mpr ⟨listed, passed⟩, rfl⟩

theorem add (sound : Sound key catalog) (named : key item = catalog.nextToken) :
    Sound key (catalog.add item) := by
  refine ⟨?_, ?_, ?_⟩
  · rw [tokens_add, List.pairwise_append]
    refine ⟨sound.ascending, List.pairwise_singleton .., fun token listed last same => ?_⟩
    rw [List.mem_singleton.mp same]
    exact sound.given token listed
  · intro token listed
    rw [tokens_add, List.mem_append, List.mem_singleton] at listed
    rcases listed with old | rfl
    · exact Nat.lt_succ_of_lt (sound.given token old)
    · exact Nat.lt_succ_self _
  · intro token found there
    rw [get?_add sound.fresh] at there
    split at there
    · rename_i same
      rw [← Option.some.inj there, named, same]
    · exact sound.keyed there

theorem drops (sound : Sound key catalog) (tokens : List Nat) :
    Sound key (tokens.foldl Catalog.drop catalog) := by
  induction tokens generalizing catalog with
  | nil => exact sound
  | cons token rest ih =>
      refine ih ⟨?_, ?_, ?_⟩
      · rw [tokens_drop]
        exact sound.ascending.filter _
      · intro other listed
        rw [tokens_drop] at listed
        rw [nextToken_drop]
        exact sound.given other (List.mem_filter.mp listed).1
      · intro other item there
        rw [get?_drop] at there
        split at there
        · cases there
        · exact sound.keyed there

theorem modifyEach (sound : Sound key catalog) {tokens : List Nat} (once : tokens.Nodup)
    {change : Item → Item}
    (named : ∀ token ∈ tokens, ∀ item, catalog.get? token = some item → key (change item) = token) :
    Sound key (modifyEach change tokens catalog) := by
  refine ⟨?_, ?_, ?_⟩
  · rw [tokens_modifyEach]
    exact sound.ascending
  · rw [tokens_modifyEach, nextToken_modifyEach]
    exact sound.given
  · intro token item there
    rw [get?_modifyEach once] at there
    split at there
    · rename_i changed
      obtain ⟨old, found, rfl⟩ := Option.map_eq_some_iff.mp there
      exact named token changed old found
    · exact sound.keyed there

end Sound

end LiveList.Catalog
