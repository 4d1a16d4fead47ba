import LiveList.Text.Lowercase
import Mathlib.Data.List.Count
import Mathlib.Data.List.Infix
import Mathlib.Data.List.TakeWhile

/-!
The lower case of a part of a text. What stands around the part makes a difference to capital sigmas
only, and only by whether a cased letter adjoins the part on either side. A part whose sigmas are
all decided within it has the same lower case wherever it stands, and any other part has a text that
holds it and whose lower case does not hold its own.
-/

namespace LiveList.Text

variable {text front rest : List Char}

/-- Whether a cased letter comes first where a text starts. If all of the text is case-ignorable,
what comes after it decides. -/
def casedNext (after : Bool) (text : List Char) : Bool :=
  match text.dropWhile isCaseIgnorable with
  | [] => after
  | c :: _ => isCased c

/-- The lower case of a character of a word, where `final` tells whether the word ends with it. -/
def imageIn (final : Bool) (c : Char) : List Char :=
  if c.toNat = 0x3A3 then if final then [Char.ofNat 0x3C2] else [Char.ofNat 0x3C3] else lowerChar c

/-- The lower case of a text between others: `left` and `right` tell whether a cased letter comes
first before it and after it. -/
def lowerBetween : Bool → List Char → Bool → List Char
  | _, [], _ => []
  | left, c :: rest, right =>
      imageIn (left && !casedNext right rest) c ++ lowerBetween (casedNext left [c]) rest right

theorem imageIn_plain {c : Char} (plain : c ≠ 'Σ') (final : Bool) :
    imageIn final c = lowerChar c := by
  have other : c.toNat ≠ 'Σ'.toNat := mt Char.toNat_inj.mp plain
  exact if_neg other

section Context

theorem startsCased_eq (text : List Char) : startsCased text = casedNext false text := rfl

theorem casedNext_cons (after : Bool) (c : Char) (rest : List Char) :
    casedNext after (c :: rest) =
      if isCaseIgnorable c then casedNext after rest else isCased c := by
  by_cases ignorable : isCaseIgnorable c = true
  · rw [casedNext, List.dropWhile_cons_of_pos ignorable, if_pos ignorable]
    rfl
  · rw [casedNext, List.dropWhile_cons_of_neg ignorable, if_neg ignorable]

theorem casedNext_append (after : Bool) (text more : List Char) :
    casedNext after (text ++ more) = casedNext (casedNext after more) text := by
  induction text with
  | nil => rfl
  | cons c rest ih => rw [List.cons_append, casedNext_cons, casedNext_cons, ih]

theorem startsCased_append (text more : List Char) :
    startsCased (text ++ more) = casedNext (startsCased more) text :=
  casedNext_append false text more

theorem casedNext_ignorable (ignorable : ∀ c ∈ text, isCaseIgnorable c = true) (after : Bool) :
    casedNext after text = after := by
  rw [casedNext, List.dropWhile_eq_nil_iff.mpr ignorable]

/-- A text with a character that decides is the same wherever it stands. -/
theorem casedNext_decided (decided : ¬ ∀ c ∈ text, isCaseIgnorable c = true) (after : Bool) :
    casedNext after text = startsCased text := by
  rw [startsCased_eq, casedNext, casedNext]
  split
  · rename_i none
    exact absurd (List.dropWhile_eq_nil_iff.mp none) decided
  · rfl

/-- A sigma is a cased letter itself, so what stands before it knows what comes next. -/
theorem casedNext_sigma (after : Bool) (rest : List Char) :
    casedNext after ('Σ' :: rest) = true := by
  rw [casedNext_cons, if_neg (by decide +kernel)]
  decide +kernel

end Context

section Between

theorem lowerFrom_append (before text after : List Char) :
    lowerFrom before (text ++ after) =
      lowerBetween (startsCased before) text (startsCased after) ++
        lowerFrom (text.reverse ++ before) after := by
  induction text generalizing before with
  | nil => rfl
  | cons c rest ih =>
      have passed : startsCased (c :: before) = casedNext (startsCased before) [c] :=
        startsCased_append [c] before
      rw [List.cons_append, lowerFrom, lowerBetween, ih, startsCased_append, passed,
        List.reverse_cons, List.append_assoc, List.append_assoc]
      rfl

theorem lower_eq (text : List Char) : lower text = lowerBetween false text false := by
  have whole := lowerFrom_append [] text []
  rwa [List.append_nil, lowerFrom, List.append_nil] at whole

/-- The lower case of a text holds that of a part, as it is between the other parts. -/
theorem lowerBetween_infix (before text after : List Char) :
    lowerBetween (startsCased before.reverse) text (startsCased after) <:+:
      lower (before ++ text ++ after) := by
  rw [List.append_assoc, lower, lowerFrom_append, List.append_nil, lowerFrom_append,
    ← List.append_assoc]
  exact List.infix_append _ _ _

theorem lowerBetween_append (left : Bool) (text more : List Char) (right : Bool) :
    lowerBetween left (text ++ more) right =
      lowerBetween left text (casedNext right more) ++
        lowerBetween (casedNext left text.reverse) more right := by
  induction text generalizing left with
  | nil => rfl
  | cons c rest ih =>
      rw [List.cons_append, lowerBetween, lowerBetween, ih, casedNext_append, List.reverse_cons,
        casedNext_append, List.append_assoc]

/-- Only sigmas see what stands around a text. -/
theorem lowerBetween_plain (plain : 'Σ' ∉ text) (left right : Bool) :
    lowerBetween left text right = lowerEach text := by
  induction text generalizing left with
  | nil => rfl
  | cons c rest ih =>
      rw [List.mem_cons, not_or] at plain
      rw [lowerBetween, imageIn_plain (Ne.symm plain.1), ih plain.2]
      rfl

/-- The same sigmas are final in one place as in the other. -/
theorem lowerBetween_congr {left right other another : Bool}
    (same : ∀ front rest, text = front ++ 'Σ' :: rest →
      (casedNext left front.reverse && !casedNext right rest) =
        (casedNext other front.reverse && !casedNext another rest)) :
    lowerBetween left text right = lowerBetween other text another := by
  induction text generalizing left other with
  | nil => rfl
  | cons c rest ih =>
      have here : imageIn (left && !casedNext right rest) c =
          imageIn (other && !casedNext another rest) c := by
        by_cases sigma : c = 'Σ'
        · have final := same [] rest (by rw [sigma, List.nil_append])
          exact congrArg (imageIn · c) final
        · rw [imageIn_plain sigma, imageIn_plain sigma]
      have later : lowerBetween (casedNext left [c]) rest right =
          lowerBetween (casedNext other [c]) rest another := by
        refine ih fun front last split => ?_
        have final := same (c :: front) last (by rw [split, List.cons_append])
        rwa [List.reverse_cons, casedNext_append, casedNext_append] at final
      rw [lowerBetween, lowerBetween, here, later]

/-- A sigma decides what comes next for the text before it, and what came last for that after it. -/
theorem lowerBetween_sigma (left : Bool) (front rest : List Char) (right : Bool) :
    lowerBetween left (front ++ 'Σ' :: rest) right =
      lowerBetween left front true ++
        (imageIn (casedNext left front.reverse && !casedNext right rest) 'Σ' ++
          lowerBetween true rest right) := by
  have passed : casedNext (casedNext left front.reverse) ['Σ'] = true := casedNext_sigma ..
  rw [lowerBetween_append, casedNext_sigma, lowerBetween, passed]

end Between

/-- There is a capital sigma of which the text alone does not tell whether a word ends with it: a
letter that follows would go on with the word, or a letter before it would make it one. -/
def OpenSigma (text : List Char) : Prop :=
  ∃ front rest, text = front ++ 'Σ' :: rest ∧
    (startsCased front.reverse = true ∧ (∀ c ∈ rest, isCaseIgnorable c = true) ∨
      (∀ c ∈ front, isCaseIgnorable c = true) ∧ startsCased rest = false)

section Open

theorem lowerBetween_closed (closed : ¬ OpenSigma text) (left right : Bool) :
    lowerBetween left text right = lower text := by
  rw [lower_eq]
  refine lowerBetween_congr fun front rest split => ?_
  -- Each side of the sigma is decided within the text, or passes on what stands outside of it.
  by_cases ahead : ∀ c ∈ front, isCaseIgnorable c = true
  · have cased : startsCased rest = true := by
      by_contra none
      exact closed ⟨front, rest, split, .inr ⟨ahead, Bool.not_eq_true _ |>.mp none⟩⟩
    have decided : ¬ ∀ c ∈ rest, isCaseIgnorable c = true := fun ignorable => by
      rw [startsCased_eq, casedNext_ignorable ignorable] at cased
      cases cased
    simp only [casedNext_decided decided, cased, Bool.not_true, Bool.and_false]
  · have decided : ¬ ∀ c ∈ front.reverse, isCaseIgnorable c = true := by simpa using ahead
    by_cases behind : ∀ c ∈ rest, isCaseIgnorable c = true
    · have uncased : startsCased front.reverse = false := by
        by_contra some
        exact closed ⟨front, rest, split, .inl ⟨Bool.not_eq_false _ |>.mp some, behind⟩⟩
      simp only [casedNext_decided decided, uncased, Bool.false_and]
    · simp only [casedNext_decided decided, casedNext_decided behind]

theorem plain_of_ignorable (ignorable : ∀ c ∈ text, isCaseIgnorable c = true) : 'Σ' ∉ text := by
  intro sigma
  have wrong : isCaseIgnorable 'Σ' = false := by decide +kernel
  exact Bool.false_ne_true (wrong.symm.trans (ignorable 'Σ' sigma))

theorem lower_letter_before (text : List Char) :
    lower ('A' :: text) = 'a' :: lowerBetween true text false := by
  have image (final : Bool) : imageIn final 'A' = ['a'] := by decide +revert +kernel
  have cased : casedNext false ['A'] = true := by decide +kernel
  rw [lower_eq, lowerBetween, image, cased]
  rfl

theorem lower_letter_after (text : List Char) :
    lower (text ++ ['A']) = lowerBetween false text true ++ ['a'] := by
  have image (left : Bool) : lowerBetween left ['A'] false = ['a'] := by decide +revert +kernel
  have cased : casedNext false ['A'] = true := by decide +kernel
  rw [lower_eq, lowerBetween_append, image, cased]

/-- An open sigma has another lower case when a letter adjoins the text, and none of those that
the lower case of the text needs is left. -/
theorem openSigma_lost (opened : OpenSigma text) :
    ∃ before after, ¬ lower text <:+: lower (before ++ text ++ after) := by
  obtain ⟨front, rest, rfl, ⟨cased, ignorable⟩ | ⟨ignorable, uncased⟩⟩ := opened
  · have place (right : Bool) : lowerBetween false (front ++ 'Σ' :: rest) right =
        lowerBetween false front true ++ (imageIn (!right) 'Σ' ++ lowerEach rest) := by
      rw [lowerBetween_sigma, ← startsCased_eq, cased, casedNext_ignorable ignorable,
        lowerBetween_plain (plain_of_ignorable ignorable), Bool.true_and]
    -- The text alone needs one final sigma more than there is before a letter.
    refine ⟨[], ['A'], fun stands => ?_⟩
    have fewer := stands.sublist.count_le 'ς'
    rw [List.nil_append, lower_letter_after, lower_eq, place, place] at fewer
    exact absurd fewer (by simp [imageIn])
  · have place (left : Bool) : lowerBetween left (front ++ 'Σ' :: rest) false =
        lowerEach front ++ (imageIn left 'Σ' ++ lowerBetween true rest false) := by
      have before : ∀ c ∈ front.reverse, isCaseIgnorable c = true := by simpa using ignorable
      rw [lowerBetween_sigma, ← startsCased_eq, uncased, casedNext_ignorable before,
        lowerBetween_plain (plain_of_ignorable ignorable), Bool.not_false, Bool.and_true]
    -- The text alone needs one sigma more that is not final than there is after a letter.
    refine ⟨['A'], [], fun stands => ?_⟩
    have fewer := stands.sublist.count_le 'σ'
    rw [List.append_nil, List.singleton_append, lower_letter_before, lower_eq, place,
      place] at fewer
    exact absurd fewer (by simp [imageIn])

theorem lower_stands_iff :
    (∀ before after, lower text <:+: lower (before ++ text ++ after)) ↔ ¬ OpenSigma text := by
  constructor
  · intro stands opened
    obtain ⟨before, after, lost⟩ := openSigma_lost opened
    exact lost (stands before after)
  · intro closed before after
    rw [← lowerBetween_closed closed]
    exact lowerBetween_infix before text after

end Open

end LiveList.Text
