import LiveList.Regex.Basic
import Mathlib.Data.Finset.Card
import Mathlib.Data.Finset.Range
import Mathlib.Logic.Function.Iterate
import Mathlib.Order.Monotone.Basic

/-!
What regular expressions match. An expression matches from one place of a text to another, and the
search marks exactly the places where a match can end that starts at a marked one. Of repetitions it
runs only as many rounds as there are places, which is enough.
-/

namespace LiveList.Regex

variable {text : List Char} {i j k : Nat}

section Rounds

variable {R : Nat → Nat → Prop} {size count : Nat}

def Rounds (R : Nat → Nat → Prop) : Nat → Nat → Nat → Prop
  | 0, i, j => i = j
  | count + 1, i, k => ∃ j, Rounds R count i j ∧ R j k

theorem rounds_add (first second : Nat) :
    Rounds R (first + second) i k ↔ ∃ j, Rounds R first i j ∧ Rounds R second j k := by
  induction second generalizing k with
  | zero => simp [Rounds]
  | succ second ih =>
      rw [← Nat.add_assoc, Rounds]
      simp only [ih, Rounds]
      constructor
      · rintro ⟨m, ⟨j, before, after⟩, last⟩
        exact ⟨j, before, m, after, last⟩
      · rintro ⟨j, before, m, after, last⟩
        exact ⟨m, ⟨j, before, after⟩, last⟩

/-- Rounds in which one may also stay. -/
theorem rounds_or_stay {most : Nat} :
    Rounds (fun i j => i = j ∨ R i j) most i k ↔ ∃ count ≤ most, Rounds R count i k := by
  induction most generalizing k with
  | zero => simp [Rounds]
  | succ most ih =>
      rw [Rounds]
      simp only [ih]
      constructor
      · rintro ⟨j, ⟨count, few, reached⟩, rfl | last⟩
        · exact ⟨count, Nat.le_succ_of_le few, reached⟩
        · exact ⟨count + 1, Nat.succ_le_succ few, j, reached, last⟩
      · rintro ⟨count, few, reached⟩
        rcases Nat.le_or_eq_of_le_succ few with fewer | rfl
        · exact ⟨k, ⟨count, fewer, reached⟩, .inl rfl⟩
        · obtain ⟨j, earlier, last⟩ := reached
          exact ⟨j, ⟨most, Nat.le_refl _, earlier⟩, .inr last⟩

theorem rounds_inside (inside : ∀ {i j}, i < size → R i j → j < size) (start : i < size)
    (reached : Rounds R count i j) : j < size := by
  induction count generalizing j with
  | zero =>
      cases reached
      exact start
  | succ count ih =>
      obtain ⟨k, earlier, last⟩ := reached
      exact inside (ih earlier) last

/-- What can be reached at all can be reached in as many rounds as there are places. -/
theorem exists_rounds_le (inside : ∀ {i j}, i < size → R i j → j < size) (start : i < size)
    (reached : Rounds R count i j) : ∃ few ≤ size, Rounds R few i j := by
  classical
  let near (most : Nat) : Finset Nat :=
    (Finset.range size).filter fun j => ∃ count ≤ most, Rounds R count i j
  have mem_near {most j : Nat} : j ∈ near most ↔ ∃ count ≤ most, Rounds R count i j := by
    rw [Finset.mem_filter, Finset.mem_range]
    constructor
    · exact And.right
    · rintro ⟨count, few, reached⟩
      exact ⟨rounds_inside inside start reached, count, few, reached⟩
  have grows : Monotone near := by
    intro most more less j member
    obtain ⟨count, few, reached⟩ := mem_near.mp member
    exact mem_near.mpr ⟨count, few.trans less, reached⟩
  -- Once a round adds nothing, the next one adds nothing either; and each that adds something adds
  -- one of the places.
  have stays (most : Nat) (same : (near most).card = (near (most + 1)).card) :
      (near (most + 1)).card = (near (most + 2)).card := by
    have settled : near most = near (most + 1) :=
      Finset.eq_of_subset_of_card_le (grows (Nat.le_succ most)) same.ge
    refine congrArg Finset.card (Finset.Subset.antisymm (grows (Nat.le_succ _)) ?_)
    intro j member
    obtain ⟨count, few, reached⟩ := mem_near.mp member
    rcases Nat.le_or_eq_of_le_succ few with fewer | rfl
    · exact mem_near.mpr ⟨count, fewer, reached⟩
    · obtain ⟨k, earlier, last⟩ := reached
      have known : k ∈ near (most + 1) := mem_near.mpr ⟨most + 1, Nat.le_refl _, earlier⟩
      rw [← settled] at known
      obtain ⟨count, few, earlier⟩ := mem_near.mp known
      exact mem_near.mpr ⟨count + 1, Nat.succ_le_succ few, k, earlier, last⟩
  have sizes : (near (max size count)).card = (near size).card :=
    Nat.stabilises_of_monotone (fun _ _ less => Finset.card_le_card (grows less))
      (fun most => (Finset.card_filter_le _ _).trans_eq (Finset.card_range size)) stays
      (Nat.le_max_left _ _)
  have all : near size = near (max size count) :=
    Finset.eq_of_subset_of_card_le (grows (Nat.le_max_left _ _)) sizes.le
  have member : j ∈ near (max size count) := mem_near.mpr ⟨count, Nat.le_max_right _ _, reached⟩
  exact mem_near.mp (all ▸ member)

end Rounds

def before (text : List Char) (place : Nat) : Option Char :=
  if place = 0 then none else text[place - 1]?

/-- The expression matches what stands between two places of the text. -/
def Matches (text : List Char) : Regex → Nat → Nat → Prop
  | .assertion holds, i, j => i = j ∧ holds (before text i) text[i]? = true
  | .one accepts, i, j => i + 1 = j ∧ ∃ c, text[i]? = some c ∧ accepts c = true
  | .sequence first second, i, k => ∃ j, Matches text first i j ∧ Matches text second j k
  | .either left right, i, j => Matches text left i j ∨ Matches text right i j
  | .repeated body least most, i, j =>
      ∃ count, least ≤ count ∧ (∀ bound, most = some bound → count ≤ max least bound) ∧
        Rounds (Matches text body) count i j

section Marks

variable {size : Nat} {step other : List Bool → List Bool} {R S : Nat → Nat → Prop}

def Marked (marks : List Bool) (place : Nat) : Prop := marks[place]? = some true

/-- A step moves the marks of a text with so many places along a relation. -/
def Carries (size : Nat) (step : List Bool → List Bool) (R : Nat → Nat → Prop) : Prop :=
  ∀ marks, marks.length = size →
    (step marks).length = size ∧ ∀ j, Marked (step marks) j ↔ ∃ i, Marked marks i ∧ R i j

theorem Marked.lt {marks : List Bool} {place : Nat} (marked : Marked marks place) :
    place < marks.length :=
  (List.getElem?_eq_some_iff.mp marked).1

theorem Carries.inside (carries : Carries size step R) (start : i < size) (related : R i j) :
    j < size := by
  obtain ⟨length, moved⟩ := carries (List.replicate size true) List.length_replicate
  have marked : Marked (List.replicate size true) i := by
    rw [Marked, List.getElem?_replicate, if_pos start]
  exact length ▸ ((moved j).mpr ⟨i, marked, related⟩).lt

theorem Carries.comp (first : Carries size step R) (second : Carries size other S) :
    Carries size (fun marks => other (step marks)) fun i k => ∃ j, R i j ∧ S j k := by
  intro marks length
  obtain ⟨kept, moved⟩ := first marks length
  obtain ⟨kept', moved'⟩ := second (step marks) kept
  refine ⟨kept', fun k => ?_⟩
  rw [moved']
  simp only [moved]
  constructor
  · rintro ⟨j, ⟨i, marked, left⟩, right⟩
    exact ⟨i, marked, j, left, right⟩
  · rintro ⟨i, marked, j, left, right⟩
    exact ⟨j, ⟨i, marked, left⟩, right⟩

theorem Carries.iterate (carries : Carries size step R) (count : Nat) :
    Carries size step^[count] (Rounds R count) := by
  induction count with
  | zero =>
      intro marks length
      simp [length, Rounds]
  | succ count ih =>
      rw [Function.iterate_succ']
      exact ih.comp carries

theorem marked_joinMarks {left right : List Bool} (same : left.length = right.length) :
    Marked (joinMarks left right) j ↔ Marked left j ∨ Marked right j := by
  simp only [Marked, joinMarks, List.getElem?_zipWith]
  rcases Nat.lt_or_ge j left.length with inside | outside
  · simp [inside, same ▸ inside]
  · simp [outside, same ▸ outside]

theorem Carries.join (left : Carries size step R) (right : Carries size other S) :
    Carries size (fun marks => joinMarks (step marks) (other marks)) fun i j => R i j ∨ S i j := by
  intro marks length
  obtain ⟨kept, moved⟩ := left marks length
  obtain ⟨kept', moved'⟩ := right marks length
  constructor
  · simp only [joinMarks, List.length_zipWith, kept, kept', Nat.min_self]
  · intro j
    rw [marked_joinMarks (kept.trans kept'.symm), moved, moved', ← exists_or]
    simp only [and_or_left]

theorem carries_stay : Carries size (fun marks => marks) Eq := by
  intro marks length
  simp [length]

/-- Stopping early makes no difference. -/
theorem settle_eq (step : List Bool → List Bool) (count : Nat) (marks : List Bool) :
    settle step count marks = step^[count] marks := by
  induction count generalizing marks with
  | zero => rfl
  | succ count ih =>
      rw [settle, Function.iterate_succ_apply]
      split
      · rename_i same
        rw [same, Function.iterate_fixed same]
      · exact ih _

end Marks

section Places

theorem getElem?_placesFrom (first : Option Char) (text : List Char) (place : Nat) :
    (placesFrom first text)[place]? =
      if place ≤ text.length then some (if place = 0 then first else text[place - 1]?, text[place]?)
      else none := by
  induction text generalizing first place with
  | nil => cases place <;> simp [placesFrom]
  | cons c rest ih =>
      cases place with
      | zero => simp [placesFrom]
      | succ place =>
          rw [placesFrom, List.getElem?_cons_succ, ih]
          cases place <;> simp

theorem getElem?_places (text : List Char) (place : Nat) :
    (places text)[place]? =
      if place ≤ text.length then some (before text place, text[place]?) else none :=
  getElem?_placesFrom none text place

theorem length_places (text : List Char) : (places text).length = text.length + 1 := by
  rw [places]
  generalize none = first
  induction text generalizing first with
  | nil => rfl
  | cons c rest ih => rw [placesFrom, List.length_cons, ih, List.length_cons]

end Places

theorem marked_zipWith {marks : List Bool} (length : marks.length = text.length + 1)
    (holds : Option Char × Option Char → Bool) :
    Marked (marks.zipWith (fun mark place => mark && holds place) (places text)) j ↔
      Marked marks j ∧ holds (before text j, text[j]?) = true := by
  simp only [Marked, List.getElem?_zipWith, getElem?_places]
  rcases Nat.lt_or_ge j marks.length with inside | outside
  · simp [inside, (by omega : j ≤ text.length)]
  · simp [outside]

theorem carries_assertion (holds : Option Char → Option Char → Bool) :
    Carries (text.length + 1) (advance (places text) (.assertion holds))
      (Matches text (.assertion holds)) := by
  intro marks length
  constructor
  · rw [advance, List.length_zipWith, length_places, length, Nat.min_self]
  · intro j
    rw [advance, marked_zipWith length fun place => holds place.1 place.2]
    simp [Matches]

/-- Where a character is taken, the marks move on by one place. -/
theorem marked_shift {marks : List Bool} (length : marks.length = text.length + 1) :
    Marked (false :: marks.dropLast) (j + 1) ↔ j < text.length ∧ Marked marks j := by
  simp [Marked, List.getElem?_dropLast, length]

theorem carries_one (accepts : Char → Bool) :
    Carries (text.length + 1) (advance (places text) (.one accepts))
      (Matches text (.one accepts)) := by
  intro marks length
  have taken : (marks.zipWith (fun mark place => mark && place.2.any accepts)
      (places text)).length = text.length + 1 := by
    rw [List.length_zipWith, length_places, length, Nat.min_self]
  constructor
  · rw [advance, List.length_cons, List.length_dropLast, taken, Nat.add_sub_cancel]
  · intro k
    rw [advance]
    cases k with
    | zero => simp [Marked, Matches]
    | succ j =>
        rw [marked_shift taken, marked_zipWith length fun place => place.2.any accepts]
        simp only [Matches, Nat.add_right_cancel_iff]
        constructor
        · rintro ⟨_, marked, accepted⟩
          exact ⟨j, marked, rfl, (Option.any_eq_true _ _).mp accepted⟩
        · rintro ⟨_, marked, rfl, c, here, accepted⟩
          exact ⟨(List.getElem?_eq_some_iff.mp here).1, marked,
            (Option.any_eq_true _ _).mpr ⟨c, here, accepted⟩⟩

/-- How many rounds a repetition may go on after those that it has to make. -/
def furtherRounds (text : List Char) (least : Nat) : Option Nat → Nat
  | some most => most - least
  | none => (places text).length

theorem advance_repeated (body : Regex) (least : Nat) (most : Option Nat) (marks : List Bool) :
    advance (places text) (.repeated body least most) marks =
      (fun marks => joinMarks marks (advance (places text) body marks))^[
        furtherRounds text least most] ((advance (places text) body)^[least] marks) := by
  rw [← settle_eq, ← settle_eq]
  cases most <;> rfl

theorem repeated_iff {R : Nat → Nat → Prop} {least : Nat} {most : Option Nat}
    (inside : ∀ {i j}, i < text.length + 1 → R i j → j < text.length + 1)
    (start : i < text.length + 1) :
    (∃ j, Rounds R least i j ∧ ∃ count ≤ furtherRounds text least most, Rounds R count j k) ↔
      ∃ count, least ≤ count ∧ (∀ bound, most = some bound → count ≤ max least bound) ∧
        Rounds R count i k := by
  constructor
  · rintro ⟨j, first, count, few, second⟩
    refine ⟨least + count, Nat.le_add_right _ _, ?_, (rounds_add least count).mpr
      ⟨j, first, second⟩⟩
    rintro bound rfl
    have more : count ≤ bound - least := few
    omega
  · rintro ⟨count, enough, bounded, reached⟩
    obtain ⟨more, rfl⟩ := Nat.exists_eq_add_of_le enough
    obtain ⟨j, first, second⟩ := (rounds_add least more).mp reached
    refine ⟨j, first, ?_⟩
    cases most with
    | some bound =>
        have most := bounded bound rfl
        exact ⟨more, (by omega : more ≤ bound - least), second⟩
    | none =>
        obtain ⟨few, enough, reached⟩ :=
          exists_rounds_le inside (rounds_inside inside start first) second
        exact ⟨few, enough.trans_eq (length_places text).symm, reached⟩

theorem carries_repeated {body : Regex} (least : Nat) (most : Option Nat)
    (carries : Carries (text.length + 1) (advance (places text) body) (Matches text body)) :
    Carries (text.length + 1) (advance (places text) (.repeated body least most))
      (Matches text (.repeated body least most)) := by
  intro marks length
  have onward := (carries_stay.join carries).iterate (furtherRounds text least most)
  obtain ⟨kept, moved⟩ := ((carries.iterate least).comp onward) marks length
  rw [advance_repeated]
  refine ⟨kept, fun k => (moved k).trans ?_⟩
  refine exists_congr fun i => and_congr_right fun marked => ?_
  simp only [rounds_or_stay, Matches]
  exact repeated_iff carries.inside (length ▸ marked.lt)

/-- The search goes exactly where the expression matches. -/
theorem carries_advance (text : List Char) (regex : Regex) :
    Carries (text.length + 1) (advance (places text) regex) (Matches text regex) := by
  induction regex with
  | assertion holds => exact carries_assertion holds
  | one accepts => exact carries_one accepts
  | sequence first second left right => exact left.comp right
  | either first second left right => exact left.join right
  | repeated body least most carries => exact carries_repeated least most carries

/-- A regular expression is found in a text exactly if it matches between two of its places. -/
theorem found_iff {regex : Regex} :
    regex.found text = true ↔ ∃ i j, i ≤ text.length ∧ Matches text regex i j := by
  obtain ⟨_, moved⟩ := carries_advance text regex ((places text).map fun _ => true)
    (by rw [List.length_map, length_places])
  have all (i : Nat) : Marked ((places text).map fun _ => true) i ↔ i ≤ text.length := by
    simp only [Marked, List.map_const', List.getElem?_replicate, length_places, Nat.lt_succ_iff]
    simp
  rw [found, List.any_eq_true]
  constructor
  · rintro ⟨mark, member, marked⟩
    obtain ⟨j, inside, rfl⟩ := List.getElem_of_mem member
    obtain ⟨i, start, matched⟩ := (moved j).mp (List.getElem?_eq_some_iff.mpr ⟨inside, marked⟩)
    exact ⟨i, j, (all i).mp start, matched⟩
  · rintro ⟨i, j, start, matched⟩
    have marked := (moved j).mpr ⟨i, (all i).mpr start, matched⟩
    exact ⟨true, List.mem_of_getElem? marked, rfl⟩

end LiveList.Regex
