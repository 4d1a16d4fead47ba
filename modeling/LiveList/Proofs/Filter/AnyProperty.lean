import LiveList.Filter.Basic
import LiveList.Hub.Entry
import LiveList.Proofs.Outcome
import LiveList.Search.Result
import LiveList.Share.Root

/-!
Filters of any property. They should find what the filters of the single text properties find, one
by one. They look at the properties that are sorted as texts, though, and the name of a bundle is a
text that is sorted in a way of its own.
-/

namespace LiveList

open Outcome

namespace Filter

variable {Item : Type} {handler : Handler Item} {item : Item} {method : FilterMethod}
  {pattern : FilterPattern} {matcher : TextMatcher}

/-- The filter of any property passes an item if and only if that of one of its text properties
does. -/
def AnyIsSome (handler : Handler Item) (item : Item) (method : FilterMethod)
    (pattern : FilterPattern) : Prop :=
  ∀ filter, compile .any method pattern = .ok filter →
    (filter.passes handler item = true ↔
      ∃ property ∈ handler.table, property.kind = .text ∧
        ∃ single, compile (.property property.id) method pattern = .ok single ∧
          single.passes handler item = true)

theorem compile_ok_iff {target : FilterTarget} {filter : Filter} :
    compile target method pattern = .ok filter ↔
      ∃ matcher, TextMatcher.compile method pattern.asText = .ok matcher ∧
        filter = ⟨target, method, pattern, matcher, pattern.threshold?⟩ := by
  constructor
  · intro compiled
    obtain ⟨matcher, ready, compiled⟩ := of_bind_ok compiled
    exact ⟨matcher, ready, (of_pure_ok compiled).symm⟩
  · rintro ⟨matcher, ready, rfl⟩
    rw [compile, ready]
    rfl

theorem passes_any_iff {number : Option Threshold} :
    passes ⟨.any, method, pattern, matcher, number⟩ handler item = true ↔
      ∃ property ∈ handler.table, property.sort = .text ∧
        matcher.holds (handler.text item property.id) = true := by
  simp [passes, matchesText]

/-- The filter of a text looks at the text, in whichever form it is sent. -/
theorem passes_text_iff {number : Option Threshold} {property : Property}
    (place : handler.table[property.id]? = some property) (text : property.kind = .text) :
    passes ⟨.property property.id, method, pattern, matcher, number⟩ handler item = true ↔
      matcher.holds (handler.text item property.id) = true := by
  simp [passes, place, matchesProperty, matchesText, text, ValueKind.isNumeric]

/-- Which of the properties are texts, and which are sorted as texts, is all that counts. -/
theorem anyIsSome_iff (placed : ∀ property ∈ handler.table,
      handler.table[property.id]? = some property) :
    AnyIsSome handler item method pattern ↔
      ∀ matcher, TextMatcher.compile method pattern.asText = .ok matcher →
        ((∃ property ∈ handler.table, property.sort = .text ∧
            matcher.holds (handler.text item property.id) = true) ↔
          ∃ property ∈ handler.table, property.kind = .text ∧
            matcher.holds (handler.text item property.id) = true) := by
  have singles {matcher : TextMatcher}
      (ready : TextMatcher.compile method pattern.asText = .ok matcher) :
      (∃ property ∈ handler.table, property.kind = .text ∧
        ∃ single, compile (.property property.id) method pattern = .ok single ∧
          single.passes handler item = true) ↔
      ∃ property ∈ handler.table, property.kind = .text ∧
        matcher.holds (handler.text item property.id) = true := by
    refine exists_congr fun property => and_congr_right fun listed => and_congr_right fun text => ?_
    rw [← passes_text_iff (placed property listed) text]
    constructor
    · rintro ⟨single, compiled, passes⟩
      obtain ⟨other, again, rfl⟩ := compile_ok_iff.mp compiled
      rw [ready, Except.ok.injEq] at again
      exact again ▸ passes
    · intro passes
      exact ⟨_, compile_ok_iff.mpr ⟨matcher, ready, rfl⟩, passes⟩
  constructor
  · intro agrees matcher ready
    rw [← passes_any_iff, agrees _ (compile_ok_iff.mpr ⟨matcher, ready, rfl⟩), singles ready]
  · intro agrees filter compiled
    obtain ⟨matcher, ready, rfl⟩ := compile_ok_iff.mp compiled
    rw [passes_any_iff, agrees matcher ready, singles ready]

theorem anyIsSome_of_agree (placed : ∀ property ∈ handler.table,
      handler.table[property.id]? = some property)
    (agree : ∀ property ∈ handler.table, property.sort = .text ↔ property.kind = .text) :
    AnyIsSome handler item method pattern := by
  refine (anyIsSome_iff placed).mpr fun matcher _ => exists_congr fun property => ?_
  exact and_congr_right fun listed => and_congr_left' (agree property listed)

/-- Of the properties of bundles, only the target is looked at, and the name is left out. -/
theorem anyIsSome_bundle_iff {bundle : Bundle} :
    AnyIsSome Bundle.handler bundle method pattern ↔
      ∀ matcher, TextMatcher.compile method pattern.asText = .ok matcher →
        matcher.holds bundle.name = true → matcher.holds bundle.target = true := by
  have name : bundle.text Bundle.nameId = bundle.name := rfl
  have target : bundle.text Bundle.targetId = bundle.target := rfl
  have sorted (matcher : TextMatcher) :
      (∃ property ∈ Bundle.properties, property.sort = .text ∧
        matcher.holds (bundle.text property.id) = true) ↔
      matcher.holds bundle.target = true := by
    simp [Bundle.properties, Property.text, Property.numeric, Property.custom, target]
  have texts (matcher : TextMatcher) :
      (∃ property ∈ Bundle.properties, property.kind = .text ∧
        matcher.holds (bundle.text property.id) = true) ↔
      (matcher.holds bundle.name = true ∨ matcher.holds bundle.target = true) := by
    simp [Bundle.properties, Property.text, Property.numeric, Property.custom, name, target]
  rw [anyIsSome_iff (by decide)]
  refine forall_congr' fun matcher => imp_congr_right fun _ => ?_
  exact (iff_congr (sorted matcher) (texts matcher)).trans iff_or_self

/-- A filter of any property finds what the filters of the single text properties find: always
among share roots, favorite hubs and search results, and among bundles exactly if the target
matches wherever the name does. -/
theorem any_some_iff (method : FilterMethod) (pattern : FilterPattern) :
    (∀ root, AnyIsSome ShareRoot.handler root method pattern) ∧
      (∀ hub, AnyIsSome FavoriteHub.handler hub method pattern) ∧
      (∀ result, AnyIsSome SearchResult.handler result method pattern) ∧
      ∀ bundle, AnyIsSome Bundle.handler bundle method pattern ↔
        ∀ matcher, TextMatcher.compile method pattern.asText = .ok matcher →
          matcher.holds bundle.name = true → matcher.holds bundle.target = true :=
  ⟨fun _ => anyIsSome_of_agree (by decide) (by decide),
    fun _ => anyIsSome_of_agree (by decide) (by decide),
    fun _ => anyIsSome_of_agree (by decide) (by decide),
    fun _ => anyIsSome_bundle_iff⟩

def namedBundle : Bundle := { name := "film", target := "/x" }

theorem namedBundle_hidden :
    ¬ AnyIsSome Bundle.handler namedBundle .substring (.text "film") := by
  rw [anyIsSome_bundle_iff]
  intro found
  exact absurd (found _ rfl (by decide +kernel)) (by decide +kernel)

end Filter

end LiveList
