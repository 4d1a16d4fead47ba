import LiveList.Property
import LiveList.Proofs.Source.EventLog

/-!
Prompt reports. A change of an item shows in what can be read of its properties, and in its place
among the other items. The owners of share roots, favorite hubs and search results report every
property in which a change shows, at once and in one event.
-/

namespace LiveList

namespace Handler

variable {Item : Type} {handler : Handler Item} {property : Property} {id : PropertyId}
  {old new : Item}

structure SameBy (handler : Handler Item) (id : PropertyId) (old new : Item) : Prop where
  number : handler.number new id = handler.number old id
  text : handler.text new id = handler.text old id
  custom : handler.custom new id = handler.custom old id
  before : ∀ other, handler.order new other id = handler.order old other id
  after : ∀ other, handler.order other new id = handler.order other old id

def ReadsOtherwise (handler : Handler Item) (property : Property) (old new : Item) : Prop :=
  handler.number new property.id ≠ handler.number old property.id ∨
    handler.text new property.id ≠ handler.text old property.id ∨
    handler.propertyJson new property ≠ handler.propertyJson old property

def PlacedOtherwise (handler : Handler Item) (property : Property) (other old new : Item) : Prop :=
  ∃ ascending,
    handler.compare property.id ascending new other ≠
        handler.compare property.id ascending old other ∨
      handler.compare property.id ascending other new ≠
        handler.compare property.id ascending other old

theorem SameBy.refl (handler : Handler Item) (id : PropertyId) (item : Item) :
    handler.SameBy id item item :=
  ⟨rfl, rfl, rfl, fun _ => rfl, fun _ => rfl⟩

theorem SameBy.reads (same : handler.SameBy property.id old new) :
    ¬ handler.ReadsOtherwise property old new := by
  rintro (number | text | json)
  · exact number same.number
  · exact text same.text
  · refine json ?_
    simp only [propertyJson, same.number, same.text, same.custom]

theorem SameBy.places (same : handler.SameBy property.id old new) (other : Item) :
    ¬ handler.PlacedOtherwise property other old new := by
  rintro ⟨ascending, before | after⟩
  · refine before ?_
    simp only [compare, same.number, same.text, same.before]
  · refine after ?_
    simp only [compare, same.number, same.text, same.after]

end Handler

/-- Whether a property of the item under a token differs from before, as it reads or as it is
compared with another item that is the same as before. -/
def Catalog.Differs {Item : Type} (handler : Handler Item) (property : Property)
    (before after : Catalog Item) (token : Nat) (old new : Item) : Prop :=
  handler.ReadsOtherwise property old new ∨
    ∃ other item, other ≠ token ∧ before.get? other = some item ∧ after.get? other = some item ∧
      handler.PlacedOtherwise property item old new

theorem Handler.SameBy.not_differs {Item : Type} {handler : Handler Item} {property : Property}
    {old new : Item} (same : handler.SameBy property.id old new) {before after : Catalog Item}
    {token : Nat} : ¬ Catalog.Differs handler property before after token old new := by
  rintro (reads | ⟨other, item, _, _, _, places⟩)
  · exact same.reads reads
  · exact same.places item places

/-- A change is reported by a single event that names the property, or the property is as it was. -/
abbrev Handler.Reported {Item : Type} (handler : Handler Item) (id : PropertyId) (old new : Item)
    (reports : List PropertySet) : Prop :=
  (∃ changed, reports = [changed] ∧ id ∈ changed) ∨ handler.SameBy id old new

variable {id : PropertyId} {reports : List PropertySet}

namespace ShareRoot

variable {old new : ShareRoot}

-- What each property of a root is read from.
theorem sameBy (path : id = pathId ∨ id = typeId → new.path = old.path)
    (virtualName : id = virtualNameId → new.virtualName = old.virtualName)
    (size : id = sizeId → new.size = old.size)
    (profiles : id = profilesId → new.profiles = old.profiles)
    (incoming : id = incomingId → new.incoming = old.incoming)
    (refreshed : id = lastRefreshTimeId → new.lastRefreshTime = old.lastRefreshTime)
    (state : id = refreshStateId → new.refreshState = old.refreshState)
    (content : id = typeId → new.directories = old.directories ∧ new.files = old.files) :
    handler.SameBy id old new := by
  have number : number new id = number old id := by grind [number]
  constructor
  · exact number
  · show text new id = text old id
    grind [text, profilesText, contentText]
  · show custom new id = custom old id
    grind [custom, contentText]
  · intro other
    show order new other id = order old other id
    grind [order]
  · intro other
    show order other new id = order other old id
    grind [order]

theorem Edit.reported (edit : old.Edit new reports) : handler.Reported id old new reports := by
  cases edit with
  | update virtualName profiles incoming named published made =>
      by_cases named : id ∈ old.updated new
      · have some : (old.updated new).isEmpty = false := by
          rw [List.isEmpty_eq_false_iff_exists_mem]
          exact ⟨id, named⟩
        exact .inl ⟨_, by rw [some]; rfl, named⟩
      · right
        subst made
        apply sameBy <;> grind [updated]
  | begin idle =>
      by_cases named : id = refreshStateId
      · exact .inl ⟨_, rfl, List.mem_singleton.mpr named⟩
      · right
        apply sameBy <;> grind
  | finish now size files directories =>
      by_cases named : id ∈ [sizeId, typeId, lastRefreshTimeId, refreshStateId]
      · exact .inl ⟨_, rfl, PropertySet.mem_ofIds.mpr named⟩
      · right
        apply sameBy <;> grind

end ShareRoot

namespace FavoriteHub

variable {old new : FavoriteHub}

-- What each property of a hub is read from.
theorem sameBy (name : id = nameId → new.name = old.name) (url : id = urlId → new.url = old.url)
    (description : id = descriptionId → new.description = old.description)
    (autoConnect : id = autoConnectId → new.autoConnect = old.autoConnect)
    (shareProfile : id = shareProfileId → new.shareProfile = old.shareProfile)
    (connectState : id = connectStateId → new.connectState = old.connectState)
    (nick : id = nickId → new.nick = old.nick)
    (password : id = hasPasswordId → new.password = old.password)
    (userDescription : id = userDescriptionId → new.userDescription = old.userDescription)
    (ignore : id = ignorePrivateMessagesId →
      new.ignorePrivateMessages = old.ignorePrivateMessages) : handler.SameBy id old new := by
  have number : number new id = number old id := by grind [number, hasPassword]
  constructor
  · exact number
  · show text new id = text old id
    grind [text, shareProfileText]
  · show custom new id = custom old id
    grind [custom, shareProfileText]
  · exact fun _ => rfl
  · exact fun _ => rfl

theorem Edit.reported (edit : old.Edit new reports) {property : Property}
    (listed : property ∈ properties) : handler.Reported property.id old new reports := by
  cases edit with
  | update => exact .inl ⟨_, rfl, PropertyTable.mem_ids.mpr ⟨property, listed, rfl⟩⟩
  | connect state other =>
      by_cases named : property.id = connectStateId
      · exact .inl ⟨_, rfl, List.mem_singleton.mpr named⟩
      · right
        apply sameBy <;> grind

end FavoriteHub

namespace SearchResult

variable {old new : SearchResult}

-- What each property of a result is read from.
theorem sameBy (name : id = nameId ∨ id = typeId → new.name = old.name)
    (path : id = pathId → new.path = old.path) (size : id = sizeId → new.size = old.size)
    (directory : id = typeId → new.isDirectory = old.isDirectory)
    (date : id = dateId → new.date = old.date)
    (relevance : id = relevanceId → new.matchRelevance = old.matchRelevance)
    (sources : id ∈ [hitsId, usersId, relevanceId, slotsId, connectionId] →
      new.sources = old.sources) : handler.SameBy id old new := by
  have number : number new id = number old id := by
    grind [number, totalRelevance, hits, connection]
  constructor
  · exact number
  · show text new id = text old id
    grind [text, typeText, usersText, users, slotsText, slots]
  · show custom new id = custom old id
    grind [custom, typeText, hits, usersText, users, slotsText, slots]
  · intro other
    show order new other id = order old other id
    grind [order, typeText, hits, usersText, users, slots]
  · intro other
    show order other new id = order other old id
    grind [order, typeText, hits, usersText, users, slots]

theorem Edit.reported (edit : old.Edit new reports) : handler.Reported id old new reports := by
  cases edit with
  | merge source other =>
      by_cases named : id ∈ [hitsId, usersId, relevanceId, slotsId, connectionId]
      · exact .inl ⟨_, rfl, PropertySet.mem_ofIds.mpr named⟩
      · right
        apply sameBy <;> grind

end SearchResult

/-- The owners that report every change at once; the queue has its ticks for that. -/
theorem OwnerName.edits_reported {name : OwnerName} (prompt : name ≠ .queue)
    {old new : name.keeper.Item} (edit : name.edits old new reports) {property : Property}
    (listed : property ∈ name.keeper.handler.table) :
    name.keeper.handler.Reported property.id old new reports := by
  cases name with
  | queue => exact absurd rfl prompt
  | share => exact ShareRoot.Edit.reported edit
  | hubs => exact FavoriteHub.Edit.reported edit listed
  | search => exact SearchResult.Edit.reported edit

/-- A property of an item that differs after an operation is named by the only report about it. -/
theorem change_reported {name : OwnerName} (prompt : name ≠ .queue)
    (operations : List name.keeper.Operation) (operation : name.keeper.Operation) {token : Nat}
    {old new : name.keeper.Item} {property : Property}
    (listed : property ∈ name.keeper.handler.table)
    (before : (name.keeper.after operations).get? token = some old)
    (still : (name.keeper.after (operations ++ [operation])).get? token = some new)
    (differs : Catalog.Differs name.keeper.handler property (name.keeper.after operations)
      (name.keeper.after (operations ++ [operation])) token old new) :
    ∃ changed,
      ItemEvent.reports token (name.keeper.reported operations operation) = [changed] ∧
        property.id ∈ changed := by
  rcases name.keeper_steps.stays before still with ⟨rfl, _⟩ | edit
  · exact absurd differs (Handler.SameBy.refl ..).not_differs
  · rcases name.edits_reported prompt edit listed with reported | same
    · exact reported
    · exact absurd differs same.not_differs

/-- A hub that is connected to says so. -/
theorem connecting_reported :
    ∃ changed,
      ItemEvent.reports 1 (HubList.keeper.reported
          [.addHub { name := some "hub", url := some "adc://hub" }]
          (.setConnectState 1 .connecting)) = [changed] ∧
        FavoriteHub.connectStateId ∈ changed :=
  change_reported (show OwnerName.hubs ≠ .queue by decide) _ _
    (List.mem_of_getElem? (show FavoriteHub.properties[5]? = some _ from rfl)) rfl rfl
    (.inl (.inr (.inl (by decide))))

end LiveList
