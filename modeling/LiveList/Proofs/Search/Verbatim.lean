import LiveList.Proofs.Search.Merging
import LiveList.Proofs.Text.Blank
import LiveList.Proofs.Text.Lowercase

/-!
What stands in a text letter by letter should be found in it, by a filter for a substring and by a
search. Both read the pattern and the text in lower case, each as a whole, and so miss a pattern
with a sigma that ends a word of the pattern, but not of the text.
-/

namespace LiveList

open Text

def Filter.FindsIn (pattern value : String) : Prop :=
  ∀ target, ∃ filter, compile target .substring (.text pattern) = .ok filter ∧
    filter.matchesText value = true

/-- A search for the pattern takes in all results with a name, however it stood before. -/
def Search.TakesIn (pattern name : String) : Prop :=
  ∀ search : Search, 0 < matchRelevance (search.start pattern).owner.terms name ∧
    ∀ incoming : IncomingResult, resultName incoming.path incoming.isDirectory = name →
      ∃ done, (search.start pattern).owner.addResult incoming = .ok done

variable {pattern value name : String}

theorem Filter.findsIn_iff :
    FindsIn pattern value ↔ lower pattern.toList <:+: lower value.toList := by
  rw [← TextMatcher.standsIn_iff]
  constructor
  · intro finds
    obtain ⟨filter, compiled, holds⟩ := finds .any
    rw [← Except.ok.inj compiled] at holds
    exact holds
  · intro stands target
    exact ⟨_, rfl, stands⟩

namespace Search

def Unbroken (pattern : String) : Prop := ∀ c ∈ pattern.toList, isBlank c = false

instance : Decidable (Unbroken pattern) := List.decidableBAll _ _

theorem matchRelevance_start (search : Search) (unbroken : Unbroken pattern) (name : String) :
    matchRelevance (search.start pattern).owner.terms name =
      if lower pattern.toList <:+: lower name.toList then 1 else 0 := by
  show matchRelevance ((words pattern.toList).map fun word => String.ofList (lower word)) name = _
  by_cases empty : pattern.toList = []
  · rw [empty]
    exact (if_pos (List.nil_infix)).symm
  · have named : NamedBy (String.ofList (lower pattern.toList)) name ↔
        lower pattern.toList <:+: lower name.toList := by
      simp only [NamedBy, String.toList_ofList]
    rw [words_unbroken unbroken empty, List.map_singleton, matchRelevance_single]
    exact if_congr named rfl rfl

theorem addResult_start (search : Search) (query : String) (incoming : IncomingResult) :
    (∃ done, (search.start query).owner.addResult incoming = .ok done) ↔
      ¬ matchRelevance (search.start query).owner.terms
        (resultName incoming.path incoming.isDirectory) == 0 := by
  rw [addResult_unknown rfl]
  show (∃ done, ite _ _ _ = Except.ok done) ↔ _
  split
  · rename_i missed
    exact iff_of_false nofun (not_not.mpr missed)
  · rename_i found
    exact iff_of_true ⟨_, rfl⟩ found

theorem takesIn_iff (unbroken : Unbroken pattern) :
    TakesIn pattern name ↔ lower pattern.toList <:+: lower name.toList := by
  constructor
  · intro takes
    have relevant := (takes {}).1
    rw [matchRelevance_start _ unbroken] at relevant
    by_contra lost
    rw [if_neg lost] at relevant
    exact absurd relevant (by decide +kernel)
  · intro stands search
    have relevance : matchRelevance (search.start pattern).owner.terms name = 1 := by
      rw [matchRelevance_start _ unbroken, if_pos stands]
    refine ⟨by rw [relevance]; decide +kernel, fun incoming named => ?_⟩
    rw [addResult_start, named, relevance]
    decide +kernel

end Search

/-- The pattern is found wherever it stands, by filters and by searches, exactly if it is decided
within the pattern of each of its capital sigmas whether a word ends with it. -/
theorem verbatim_found_iff (pattern : String) :
    ((∀ value : String, pattern.toList <:+: value.toList → Filter.FindsIn pattern value) ↔
        ¬ OpenSigma pattern.toList) ∧
      (Search.Unbroken pattern →
        ((∀ name : String, pattern.toList <:+: name.toList → Search.TakesIn pattern name) ↔
          ¬ OpenSigma pattern.toList)) := by
  have everywhere : (∀ value : String, pattern.toList <:+: value.toList →
        lower pattern.toList <:+: lower value.toList) ↔ ¬ OpenSigma pattern.toList := by
    rw [← lower_stands_iff]
    constructor
    · intro stands before after
      have there := stands (String.ofList (before ++ pattern.toList ++ after))
      rw [String.toList_ofList] at there
      exact there ⟨before, after, rfl⟩
    · rintro stands value ⟨before, after, whole⟩
      rw [← whole]
      exact stands before after
  constructor
  · rw [← everywhere]
    simp only [Filter.findsIn_iff]
  · intro unbroken
    rw [← everywhere]
    simp only [Search.takesIn_iff unbroken]

/-- The end of one word in the middle of another. -/
theorem wordEnd_lost :
    "ΑΣ".toList <:+: "ΑΣΑ".toList ∧ ¬ Filter.FindsIn "ΑΣ" "ΑΣΑ" ∧ ¬ Search.TakesIn "ΑΣ" "ΑΣΑ" := by
  rw [Filter.findsIn_iff, Search.takesIn_iff (by decide +kernel)]
  decide +kernel

end LiveList
