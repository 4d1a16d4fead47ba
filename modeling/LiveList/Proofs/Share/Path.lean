import LiveList.Share.Path
import Mathlib.Data.List.DropRight
import Mathlib.Data.List.Infix

/-!
Paths taken apart: what stands after the last separator and what stands before it, the separators at
the end, and the last place where a text occurs.
-/

namespace LiveList.Path

variable {path part text front rest : List Char} {c : Char}

theorem isSeparator_lastPart (member : c ∈ lastPart path) : isSeparator c = false := by
  simpa using List.mem_rtakeWhile_imp (p := fun c => !isSeparator c) member

/-- Before the last part of a path stands nothing, or a separator. -/
theorem exists_append_lastPart (path : List Char) :
    ∃ front, path = front ++ lastPart path ∧ ∀ c ∈ front.getLast?, isSeparator c = true := by
  refine ⟨path.rdropWhile fun c => !isSeparator c, ?_, ?_⟩
  · exact List.rdropWhile_append_rtakeWhile.symm
  · intro c last
    obtain ⟨some, rfl⟩ := List.mem_getLast?_eq_getLast last
    simpa using List.rdropWhile_last_not (fun c => !isSeparator c) path some

/-- Only separators are trimmed off the end of a path. -/
theorem exists_trimEnd_append (path : List Char) :
    ∃ rest, path = trimEnd path ++ rest ∧ ∀ c ∈ rest, isSeparator c = true :=
  ⟨path.rtakeWhile isSeparator, List.rdropWhile_append_rtakeWhile.symm,
    fun _ => List.mem_rtakeWhile_imp⟩

section LastIndex

theorem lastIndexOf?_nil (text : List Char) : lastIndexOf? [] text = some text.length := by
  induction text with
  | nil => rfl
  | cons c rest ih => simp [lastIndexOf?, ih]

theorem lastIndexOf?_eq_none_iff : lastIndexOf? part text = none ↔ ¬ part <:+: text := by
  induction text with
  | nil => cases part <;> simp [lastIndexOf?]
  | cons c rest ih =>
      rw [List.infix_cons_iff, lastIndexOf?]
      cases found : lastIndexOf? part rest with
      | none => simp [ih.mp found]
      | some place => simp [not_not.mp (mt ih.mpr (by simp [found]))]

/-- Whatever stands in front does not change which place is the last. -/
theorem lastIndexOf?_append {place : Nat} (found : lastIndexOf? part text = some place)
    (front : List Char) : lastIndexOf? part (front ++ text) = some (front.length + place) := by
  induction front with
  | nil => simpa using found
  | cons c front ih =>
      rw [List.cons_append, lastIndexOf?, ih, List.length_cons]
      simp only [Option.some.injEq]
      omega

/-- A part of a path that only separators follow does not occur again. -/
theorem lastIndexOf?_last (some : part ≠ []) (whole : ∀ c ∈ part, isSeparator c = false)
    (ends : ∀ c ∈ rest, isSeparator c = true) (front : List Char) :
    lastIndexOf? part (front ++ (part ++ rest)) = .some front.length := by
  have apart : ∀ c ∈ part, c ∉ rest := by
    intro c member separator
    have both := whole c member
    rw [ends c separator] at both
    cases both
  cases part with
  | nil => exact absurd rfl some
  | cons first others =>
      have once : ¬ first :: others <:+: others ++ rest := by
        rintro ⟨before, after, again⟩
        rw [List.append_assoc] at again
        -- It is longer than what is left of it, and so it would reach into the separators.
        rcases List.append_eq_append_iff.mp again with ⟨left, inside, shared⟩ | ⟨left, _, beyond⟩
        · rcases List.append_eq_append_iff.mp shared with ⟨more, within, _⟩ | ⟨last, split, tail⟩
          · have lengths := congrArg List.length inside
            simp [within] at lengths
            omega
          · cases last with
            | nil =>
                have lengths := congrArg List.length inside
                have same := congrArg List.length split
                simp at lengths same
                omega
            | cons c last => exact apart c (by simp [split]) (by simp [tail])
        · exact apart first List.mem_cons_self (by simp [beyond])
      have here : lastIndexOf? (first :: others) (first :: others ++ rest) = .some 0 := by
        have next := lastIndexOf?_eq_none_iff.mpr once
        simp [lastIndexOf?, next]
      simpa using lastIndexOf?_append here front

end LastIndex

end LiveList.Path
