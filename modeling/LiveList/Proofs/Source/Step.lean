import LiveList.Proofs.Source.Catalog

/-!
What an operation on the owner of items comes to. It leaves the items alone, adds one, drops some or
edits some, and it reports what it did. An item that is there before and after was either left alone
or edited once, and the reports about it are those of the edit. An operation that adds nothing is a
revision: all items that are there after it were there before.
-/

namespace LiveList

def ItemEvent.reports (token : Nat) (events : List ItemEvent) : List PropertySet :=
  events.filterMap fun
    | updated other changed => if other = token then some changed else none
    | added _ | removed _ => none

theorem ItemEvent.mem_reports {token : Nat} {changed : PropertySet} {events : List ItemEvent} :
    changed ∈ reports token events ↔ .updated token changed ∈ events := by
  simp only [reports, List.mem_filterMap]
  constructor
  · rintro ⟨event, member, told⟩
    cases event with
    | added | removed => cases told
    | updated other set =>
        by_cases same : other = token
        · simp only [same, if_true, Option.some.injEq] at told
          rw [← told, ← same]
          exact member
        · simp [same] at told
  · intro member
    exact ⟨_, member, by simp⟩

namespace Catalog

variable {Item : Type} {key : Item → Nat} {edits : Item → Item → List PropertySet → Prop}
  {catalog after : Catalog Item} {events : List ItemEvent}

def told (tell : Item → List PropertySet) (catalog : Catalog Item) (token : Nat) :
    List ItemEvent :=
  ((catalog.get? token).toList.flatMap tell).map (.updated token)

theorem flatMap_told_const {tokens : List Nat} (listed : ∀ token ∈ tokens, token ∈ catalog.tokens)
    (changed : PropertySet) :
    tokens.flatMap (catalog.told fun _ => [changed]) = tokens.map (.updated · changed) := by
  induction tokens with
  | nil => rfl
  | cons token rest ih =>
      obtain ⟨item, found⟩ := mem_tokens.mp (listed token List.mem_cons_self)
      have later := ih fun other member => listed other (List.mem_cons_of_mem _ member)
      rw [List.flatMap_cons, later]
      simp [told, found]

/-- What an operation does to a catalog and reports about it. An edit takes an item to its new
value and its reports. -/
inductive Step (key : Item → Nat) (edits : Item → Item → List PropertySet → Prop)
    (catalog : Catalog Item) : List ItemEvent → Catalog Item → Prop
  | rest : Step key edits catalog [] catalog
  | add (item : Item) (named : key item = catalog.nextToken) :
      Step key edits catalog [.added catalog.nextToken] (catalog.add item)
  | drop (tokens : List Nat) (listed : tokens.Sublist catalog.tokens) :
      Step key edits catalog (tokens.map .removed) (tokens.foldl Catalog.drop catalog)
  | edit (tokens : List Nat) (listed : tokens.Sublist catalog.tokens) (change : Item → Item)
      (tell : Item → List PropertySet)
      (edited : ∀ token ∈ tokens, ∀ item, catalog.get? token = some item →
        key (change item) = token ∧ edits item (change item) (tell item)) :
      Step key edits catalog (tokens.flatMap (catalog.told tell))
        (modifyEach change tokens catalog)

inductive Revision (key : Item → Nat) (edits : Item → Item → List PropertySet → Prop)
    (catalog : Catalog Item) : List ItemEvent → Catalog Item → Prop
  | rest : Revision key edits catalog [] catalog
  | drop (tokens : List Nat) (listed : tokens.Sublist catalog.tokens) :
      Revision key edits catalog (tokens.map .removed) (tokens.foldl Catalog.drop catalog)
  | edit (tokens : List Nat) (listed : tokens.Sublist catalog.tokens) (change : Item → Item)
      (tell : Item → List PropertySet)
      (edited : ∀ token ∈ tokens, ∀ item, catalog.get? token = some item →
        key (change item) = token ∧ edits item (change item) (tell item)) :
      Revision key edits catalog (tokens.flatMap (catalog.told tell))
        (modifyEach change tokens catalog)

namespace Revision

theorem step (revision : Revision key edits catalog events after) :
    Step key edits catalog events after := by
  cases revision with
  | rest => exact .rest
  | drop tokens listed => exact .drop tokens listed
  | edit tokens listed change tell edited => exact .edit tokens listed change tell edited

theorem imp {other : Item → Item → List PropertySet → Prop}
    (revision : Revision key edits catalog events after)
    (implied : ∀ {old new reports}, edits old new reports → other old new reports) :
    Revision key other catalog events after := by
  cases revision with
  | rest => exact .rest
  | drop tokens listed => exact .drop tokens listed
  | edit tokens listed change tell edited =>
      exact .edit tokens listed change tell fun token member item there =>
        (edited token member item there).imp_right implied

theorem dropOne {token : Nat} {item : Item} (found : catalog.get? token = some item) :
    Revision key edits catalog [.removed token] (catalog.drop token) :=
  .drop [token] (List.singleton_sublist.mpr (mem_tokens.mpr ⟨item, found⟩))

theorem editOne (sound : catalog.Sound key) {token : Nat} {item edited : Item}
    {reports : List PropertySet} (found : catalog.get? token = some item)
    (edit : edits item edited reports) (same : key edited = key item) :
    Revision key edits catalog (reports.map (.updated token))
      (catalog.modify token fun _ => edited) := by
  have revision : Revision key edits catalog ([token].flatMap (catalog.told fun _ => reports))
      (modifyEach (fun _ => edited) [token] catalog) := by
    refine .edit [token] (List.singleton_sublist.mpr (mem_tokens.mpr ⟨item, found⟩)) _ _ ?_
    intro other member old there
    rw [List.mem_singleton.mp member] at there ⊢
    rw [found, Option.some.injEq] at there
    exact ⟨same.trans (sound.keyed found), there ▸ edit⟩
  simpa [told, found, modifyEach] using revision

/-- What is listed after a revision is what was listed, or an edit of it. -/
theorem before (revision : Revision key edits catalog events after) (sound : catalog.Sound key)
    {token : Nat} {new : Item} (there : after.get? token = some new) :
    ∃ old, catalog.get? token = some old ∧ (new = old ∨ ∃ reports, edits old new reports) := by
  cases revision with
  | rest => exact ⟨new, there, .inl rfl⟩
  | drop tokens listed =>
      rw [get?_drops] at there
      split at there
      · cases there
      · exact ⟨new, there, .inl rfl⟩
  | edit tokens listed change tell edited =>
      rw [get?_modifyEach (listed.nodup sound.distinct)] at there
      split at there
      · rename_i chosen
        obtain ⟨old, found, rfl⟩ := Option.map_eq_some_iff.mp there
        exact ⟨old, found, .inr ⟨_, (edited token chosen old found).2⟩⟩
      · exact ⟨new, there, .inl rfl⟩

end Revision

namespace Step

theorem sound (step : Step key edits catalog events after) (sound : catalog.Sound key) :
    after.Sound key := by
  cases step with
  | rest => exact sound
  | add item named => exact sound.add named
  | drop tokens listed => exact sound.drops tokens
  | edit tokens listed change tell edited =>
      exact sound.modifyEach (listed.nodup sound.distinct) fun token member item there =>
        (edited token member item there).1

end Step

theorem reports_removed (token : Nat) (tokens : List Nat) :
    ItemEvent.reports token (tokens.map .removed) = [] := by
  simp [ItemEvent.reports, List.filterMap_map]

theorem reports_updated (first token : Nat) (changes : List PropertySet) :
    ItemEvent.reports token (changes.map (.updated first)) =
      if first = token then changes else [] := by
  induction changes with
  | nil => rw [List.map_nil, ItemEvent.reports, List.filterMap_nil, ite_self]
  | cons changed rest ih =>
      rw [ItemEvent.reports] at ih ⊢
      rw [List.map_cons, List.filterMap_cons, ih]
      by_cases same : first = token
      · simp only [if_pos same]
      · simp only [if_neg same]

theorem reports_told (tell : Item → List PropertySet) (catalog : Catalog Item) {tokens : List Nat}
    (once : tokens.Nodup) (token : Nat) :
    ItemEvent.reports token (tokens.flatMap (catalog.told tell)) =
      if token ∈ tokens then (catalog.get? token).toList.flatMap tell else [] := by
  induction tokens with
  | nil => rfl
  | cons first rest ih =>
      have apart := List.nodup_cons.mp once
      have head : ItemEvent.reports token (catalog.told tell first) =
          if first = token then (catalog.get? first).toList.flatMap tell else [] := by
        rw [told, reports_updated]
      have parts : ItemEvent.reports token ((first :: rest).flatMap (catalog.told tell)) =
          ItemEvent.reports token (catalog.told tell first) ++
            ItemEvent.reports token (rest.flatMap (catalog.told tell)) := by
        simp [ItemEvent.reports, List.filterMap_append]
      rw [parts, head, ih apart.2]
      by_cases same : first = token
      · simp [← same, apart.1]
      · simp [same, Ne.symm same]

/-- An item that stays was left alone, and nothing is reported about it, or it was edited. -/
theorem Step.stays (step : Step key edits catalog events after) (sound : catalog.Sound key)
    {token : Nat} {old new : Item} (before : catalog.get? token = some old)
    (still : after.get? token = some new) :
    old = new ∧ ItemEvent.reports token events = [] ∨
      edits old new (ItemEvent.reports token events) := by
  cases step with
  | rest => exact .inl ⟨Option.some.inj (before.symm.trans still), rfl⟩
  | add item named =>
      have apart : token ≠ catalog.nextToken := fun same =>
        sound.fresh (same ▸ mem_tokens.mpr ⟨old, before⟩)
      rw [get?_add sound.fresh, if_neg apart, before] at still
      exact .inl ⟨Option.some.inj still, rfl⟩
  | drop tokens listed =>
      rw [get?_drops] at still
      split at still
      · cases still
      · exact .inl ⟨Option.some.inj (before.symm.trans still), reports_removed token tokens⟩
  | edit tokens listed change tell edited =>
      have once := listed.nodup sound.distinct
      rw [get?_modifyEach once, before] at still
      rw [reports_told tell catalog once]
      split at still
      · rename_i member
        rw [Option.map_some, Option.some.injEq] at still
        subst still
        rw [if_pos member, before, Option.toList_some, List.flatMap_singleton]
        exact .inr (edited token member old before).2
      · rename_i absent
        exact .inl ⟨Option.some.inj still, if_neg absent⟩

end Catalog

end LiveList
