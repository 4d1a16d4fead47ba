import LiveList.Filter.Basic
import LiveList.Proofs.Numbers
import LiveList.Search.Basic
import Mathlib.Data.List.Infix

/-!
The relevance of a name for the terms of a search. A name in which none of the terms stands has
none, and a single term is all that counts.
-/

namespace LiveList

open Numbers

namespace Search

variable {terms : List String} {term name : String}

def NamedBy (term name : String) : Prop := term.toList <:+: Text.lower name.toList

instance : Decidable (NamedBy term name) := List.decidableInfix _ _

theorem matchRelevance_eq (some : terms ≠ []) (name : String) :
    matchRelevance terms name =
      Float.ofNat (terms.filter fun term => NamedBy term name).length /
        Float.ofNat terms.length := by
  have same : (fun term : String => TextMatcher.standsIn term.toList (Text.lower name.toList)) =
      fun term => decide (NamedBy term name) := by
    funext term
    exact Bool.eq_iff_iff.mpr (TextMatcher.standsIn_iff.trans decide_eq_true_iff.symm)
  rw [matchRelevance, if_neg (by simpa using some)]
  simp only [same]

theorem matchRelevance_none (some : terms ≠ []) (none : ∀ term ∈ terms, ¬ NamedBy term name) :
    (matchRelevance terms name == 0) = true := by
  have found : terms.filter (fun term => NamedBy term name) = [] := by
    simpa [List.filter_eq_nil_iff] using none
  rw [matchRelevance_eq some, found]
  exact zero_div (above_ofNat (List.length_pos_iff.mpr some))

theorem matchRelevance_single (term name : String) :
    matchRelevance [term] name = if NamedBy term name then 1 else 0 := by
  rw [matchRelevance_eq (List.cons_ne_nil term []), List.filter_singleton]
  by_cases named : NamedBy term name
  · rw [if_pos named, decide_eq_true named]
    have whole : Float.ofNat 1 / Float.ofNat 1 = 1 := by decide +kernel
    exact whole
  · rw [if_neg named, decide_eq_false named]
    have nothing : Float.ofNat 0 / Float.ofNat 1 = 0 := by decide +kernel
    exact nothing

end Search

end LiveList
