import LiveList.Filter.Threshold
import LiveList.Handler
import LiveList.Proofs.Decimal
import LiveList.Proofs.Numbers
import LiveList.Proofs.Text.Blank
import Mathlib.Data.List.Forall2

/-!
Numeric patterns come in families. The operators in front of one size all read it alike, and the
numbers that they match fit together as comparisons with one number should. Blanks around the parts
of a pattern and the case of its unit make no difference.
-/

namespace LiveList

open Numbers Text

namespace Comparison

def admits : Comparison → Ordering → Bool
  | less => Ordering.isLT
  | lessOrEqual => Ordering.isLE
  | equal => Ordering.isEq
  | greaterOrEqual => Ordering.isGE
  | greater => Ordering.isGT
  | notEqual => Ordering.isNe

/-- Numbers are compared by their order alone. -/
theorem holds_eq {a b : Float} (left : IsNumber a) (right : IsNumber b)
    (comparison : Comparison) :
    comparison.holds a b = comparison.admits (compareNumbers a b) := by
  cases comparison with
  | less => exact lt_eq left right
  | lessOrEqual => exact le_eq left right
  | equal => exact beq_eq left right
  | notEqual =>
      show (!(a == b)) = _
      rw [beq_eq left right]
      cases compareNumbers a b <;> rfl
  | greater =>
      rw [holds, lt_eq right left, compareNumbers_swap left right]
      cases compareNumbers a b <;> rfl
  | greaterOrEqual =>
      rw [holds, le_eq right left, compareNumbers_swap left right]
      cases compareNumbers a b <;> rfl

def operators : List (String × Comparison) :=
  [("<=", lessOrEqual), (">=", greaterOrEqual), ("!=", notEqual), ("==", equal), ("<", less),
    (">", greater), ("=", equal)]

def singles : List (String × Comparison) := [("<", less), ("=", equal), (">", greater)]

theorem mem_operators_of_mem_singles {op : String × Comparison} (single : op ∈ singles) :
    op ∈ operators := by
  have each : ∀ op ∈ singles, op ∈ operators := by decide
  exact each op single

theorem single_admits (order : Ordering) : ∃! op, op ∈ singles ∧ op.2.admits order = true := by
  cases order with
  | lt => exact ⟨("<", less), by decide, by simp [singles, admits]⟩
  | eq => exact ⟨("=", equal), by decide, by simp [singles, admits]⟩
  | gt => exact ⟨(">", greater), by decide, by simp [singles, admits]⟩

def isOperatorChar (c : Char) : Bool := c == '<' || c == '>' || c == '=' || c == '!'

def Bare (text : List Char) : Prop := ∀ c ∈ text.head?, isOperatorChar c = false

instance (text : List Char) : Decidable (Bare text) :=
  Option.decidableForallMem _

variable {op : String × Comparison} {text : List Char}

theorem read?_bare (bare : Bare text) : read? text = none := by
  cases text with
  | nil => rfl
  | cons c rest =>
      have plain := bare c rfl
      unfold read?
      split <;> simp_all [isOperatorChar]

/-- An operator in front of what starts with none is read whole. -/
theorem read?_operator (known : op ∈ operators) (bare : Bare text) :
    read? (op.1.toList ++ text) = some (op.2, text) := by
  simp only [operators, List.mem_cons, List.not_mem_nil, or_false] at known
  cases text with
  | nil => rcases known with rfl | rfl | rfl | rfl | rfl | rfl | rfl <;> rfl
  | cons c rest =>
      have plain : c ≠ '=' := by
        rintro rfl
        cases bare '=' rfl
      rcases known with rfl | rfl | rfl | rfl | rfl | rfl | rfl
      case inr.inr.inr.inr.inl | inr.inr.inr.inr.inr.inl | inr.inr.inr.inr.inr.inr =>
        simp [read?, plain]
      all_goals rfl

theorem isBlank_operator (known : op ∈ operators) {c : Char} (member : c ∈ op.1.toList) :
    isBlank c = false := by
  have each : (operators.all fun op => op.1.toList.all fun c => !isBlank c) = true := by decide
  simpa using List.all_eq_true.mp (List.all_eq_true.mp each op known) c member

theorem operator_ne_nil (known : op ∈ operators) : op.1.toList ≠ [] := by
  have each : ∀ op ∈ operators, op.1.toList ≠ [] := by decide
  exact each op known

end Comparison

namespace Threshold

open Comparison

variable {op : String × Comparison} {text : String}

section Units

/-- The letters that multiples of a byte start with, and the power of 1024 each stands for. -/
def multiples : List (Char × Nat) := [('k', 1), ('m', 2), ('g', 3), ('t', 4)]

/-- Bytes need not be named. The names of their multiples may end in `b` or `ib`. -/
def units : List (List Char × Nat) :=
  ([], 0) :: (['b'], 0) :: multiples.flatMap fun (letter, power) =>
    [([letter], power), ([letter, 'b'], power), ([letter, 'i', 'b'], power)]

/-- A text spells a word in small letters; each of its own letters may be a capital. -/
def Spells (text word : List Char) : Prop :=
  List.Forall₂ (fun c letter => c = letter ∨ c = letter.toUpper) text word

def UnitIs (text : List Char) (power : Nat) : Prop :=
  ∃ word, (word, power) ∈ units ∧ Spells text word

/-- What holds of the first characters, one by one, holds of any of them. -/
theorem forall_char_lt {P : Char → Prop} {bound : Nat} (each : ∀ n < bound, P (Char.ofNat n)) :
    ∀ c : Char, c.toNat < bound → P c := by
  intro c below
  have there := each c.toNat below
  rwa [Char.ofNat_toNat] at there

theorem toLower_eq_iff {c letter : Char} (small : letter.isLower = true) :
    c.toLower = letter ↔ c = letter ∨ c = letter.toUpper := by
  constructor
  · intro same
    by_cases capital : 'A'.val ≤ c.val ∧ c.val ≤ 'Z'.val
    · have low : 65 ≤ c.toNat := capital.1
      have high : c.toNat ≤ 90 := capital.2
      have each : ∀ c : Char, c.toNat < 91 → 65 ≤ c.toNat → c = c.toLower.toUpper :=
        forall_char_lt (by decide)
      have back := each c (by omega) low
      rw [same] at back
      exact .inr back
    · have kept : c.toLower = c := dif_neg capital
      exact .inl (kept.symm.trans same)
  · obtain ⟨first, last⟩ := Bool.and_eq_true_iff.mp small
    have low : 97 ≤ letter.toNat := of_decide_eq_true first
    have high : letter.toNat ≤ 122 := of_decide_eq_true last
    have each : ∀ c : Char, c.toNat < 123 → 97 ≤ c.toNat → c.toLower = c ∧ c.toUpper.toLower = c :=
      forall_char_lt (by decide)
    have lowered := each letter (by omega) low
    rintro (rfl | rfl)
    · exact lowered.1
    · exact lowered.2

theorem spells_iff {text word : List Char} (small : ∀ letter ∈ word, letter.isLower = true) :
    Spells text word ↔ lowerAscii text = word := by
  induction word generalizing text with
  | nil => simp [Spells, lowerAscii]
  | cons letter word ih =>
      obtain ⟨first, others⟩ := List.forall_mem_cons.mp small
      cases text with
      | nil => simp [Spells, lowerAscii]
      | cons c text =>
          have rest : Spells text word ↔ lowerAscii text = word := ih others
          rw [Spells, List.forall₂_cons, ← Spells, rest, ← toLower_eq_iff first]
          simp [lowerAscii]

theorem isLower_unit {word : List Char} {power : Nat} (listed : (word, power) ∈ units) :
    ∀ letter ∈ word, letter.isLower = true := by
  have each : (units.all fun entry => entry.1.all Char.isLower) = true := by decide
  exact List.all_eq_true.mp (List.all_eq_true.mp each _ listed)

theorem UnitIs.le {text : List Char} {power : Nat} (unit : UnitIs text power) : power ≤ 4 := by
  obtain ⟨word, listed, _⟩ := unit
  have each : ∀ entry ∈ units, entry.2 ≤ 4 := by decide
  exact each _ listed

theorem unitPower?_congr {unit other : List Char} (same : lowerAscii other = lowerAscii unit) :
    unitPower? other = unitPower? unit := by
  rw [unitPower?, unitPower?, same]

/-- No other words are taken for units. -/
theorem unitPower?_eq_some_iff {text : List Char} {power : Nat} :
    unitPower? text = some power ↔ UnitIs text power := by
  constructor
  · intro known
    have spelled {word : String} (same : String.ofList (lowerAscii text) = word)
        (listed : (word.toList, power) ∈ units) : UnitIs text power := by
      refine ⟨word.toList, listed, (spells_iff (isLower_unit listed)).mpr ?_⟩
      rw [← same, String.toList_ofList]
    unfold unitPower? at known
    split at known <;> cases known <;> exact spelled ‹_› (by decide)
  · rintro ⟨word, listed, spelled⟩
    have each : ∀ entry ∈ units, unitPower? entry.1 = some entry.2 ∧
        lowerAscii entry.1 = entry.1 := by decide
    have same : lowerAscii text = word := (spells_iff (isLower_unit listed)).mp spelled
    have plain : lowerAscii word = word := (each _ listed).2
    rw [unitPower?_congr (same.trans plain.symm), (each _ listed).1]

end Units

section Sizes

def numberChars : List Char := "+-.0123456789".toList

theorem isNumberChar_iff {c : Char} : isNumberChar c = true ↔ c ∈ numberChars := by
  constructor
  · intro part
    simp only [isNumberChar, Char.isDigit, Bool.or_eq_true, Bool.and_eq_true, decide_eq_true_eq,
      beq_iff_eq] at part
    rcases part with ((⟨low, high⟩ | rfl) | rfl) | rfl
    · have least : 48 ≤ c.toNat := low
      have most : c.toNat ≤ 57 := high
      have each : ∀ c : Char, c.toNat < 58 → 48 ≤ c.toNat → c ∈ numberChars :=
        forall_char_lt (by decide)
      exact each c (by omega) least
    all_goals decide
  · have each : numberChars.all isNumberChar = true := by decide
    exact List.all_eq_true.mp each c

/-- A text of a number and what follows it, which starts with no part of a number. -/
structure Parted (text number unit : List Char) : Prop where
  whole : text = number ++ unit
  present : number ≠ []
  numeric : ∀ c ∈ number, c ∈ numberChars
  apart : ∀ c ∈ unit.head?, c ∉ numberChars

/-- The value is the written number times the power of 1024 that the unit after it stands for. -/
def SizeIs (text : List Char) (value : Float) : Prop :=
  ∃ number unit x power, Parted text number unit ∧ Decimal.NumberIs number x ∧
    UnitIs (trim unit) power ∧ value = x * Float.ofNat (1024 ^ power)

namespace Parted

variable {text number unit : List Char}

theorem span_eq (parted : Parted text number unit) :
    text.takeWhile isNumberChar = number ∧ text.dropWhile isNumberChar = unit := by
  have inside : ∀ c ∈ number, isNumberChar c = true := fun c member =>
    isNumberChar_iff.mpr (parted.numeric c member)
  have apart : ∀ c ∈ unit.head?, isNumberChar c = false := fun c first =>
    Bool.eq_false_iff.mpr fun part => parted.apart c first (isNumberChar_iff.mp part)
  rw [parted.whole]
  exact Decimal.span_exact inside apart

theorem of_span (present : text.takeWhile isNumberChar ≠ []) :
    Parted text (text.takeWhile isNumberChar) (text.dropWhile isNumberChar) := by
  constructor
  case whole => exact List.takeWhile_append_dropWhile.symm
  case present => exact present
  case numeric => exact fun c member => isNumberChar_iff.mp (List.mem_takeWhile_imp member)
  case apart =>
    intro c first part
    have outside := List.head?_dropWhile_not isNumberChar text
    simp only [Option.mem_def.mp first, isNumberChar_iff.mpr part] at outside
    cases outside

theorem bare (parted : Parted text number unit) : Bare text := by
  intro c first
  rw [parted.whole, List.head?_append_of_ne_nil _ parted.present] at first
  have each : (numberChars.all fun c => !isOperatorChar c) = true := by decide
  simpa using List.all_eq_true.mp each c (parted.numeric c (List.mem_of_mem_head? first))

end Parted

theorem readSize?_eq_some_iff {text : List Char} {value : Float} :
    readSize? text = some value ↔ SizeIs text value := by
  constructor
  · intro read
    obtain ⟨numeral, number, read⟩ := Option.bind_eq_some_iff.mp read
    obtain ⟨power, unit, read⟩ := Option.bind_eq_some_iff.mp read
    have written := Decimal.Numeral.read?_eq_some_iff.mp number
    exact ⟨_, _, numeral.nearest, power, .of_span written.ne_nil,
      Decimal.numberIs_iff.mpr ⟨numeral, number, rfl⟩, unitPower?_eq_some_iff.mp unit,
      (Option.some.inj read).symm⟩
  · rintro ⟨number, unit, x, power, parted, written, known, rfl⟩
    obtain ⟨numeral, read, rfl⟩ := Decimal.numberIs_iff.mp written
    rw [readSize?, parted.span_eq.1, parted.span_eq.2, read, unitPower?_eq_some_iff.mpr known]
    rfl

theorem isNumber_nearest (numeral : Decimal.Numeral) : IsNumber numeral.nearest := by
  have size := (upward_ofScientific (Decimal.digitsValue (numeral.whole ++ numeral.fraction)) true
    numeral.fraction.length).isNumber
  rw [Decimal.Numeral.nearest]
  split
  · exact size.neg
  · exact size

/-- Sizes are numbers, though they may be infinite. -/
theorem SizeIs.isNumber {text : List Char} {value : Float} (size : SizeIs text value) :
    IsNumber value := by
  obtain ⟨number, unit, x, power, _, written, known, rfl⟩ := size
  obtain ⟨numeral, _, rfl⟩ := Decimal.numberIs_iff.mp written
  have most : 1024 ^ power ≤ 1024 ^ 4 := Nat.pow_le_pow_right (by decide) known.le
  exact (isNumber_nearest numeral).mul
    (positive_ofNat (Nat.pow_pos (by decide)) (Nat.lt_of_le_of_lt most (by decide)))

end Sizes

section Reading

theorem read?_bare (bare : Bare (trim text.toList)) :
    read? text = (readSize? (trim text.toList)).map (Threshold.mk .equal) := by
  simp only [read?, Comparison.read?_bare bare]

/-- Without the blanks at its end a text starts with an operator only if it does so without all of
its blanks. -/
theorem bare_trimEnd {text : List Char} (bare : Bare (trim text)) : Bare (trimEnd text) := by
  intro c first
  by_contra operator
  have solid : isBlank c = false := by
    simp only [isOperatorChar, Bool.not_eq_false, Bool.or_eq_true, beq_iff_eq] at operator
    rcases operator with ((rfl | rfl) | rfl) | rfl <;> rfl
  cases front : trimEnd text with
  | nil =>
      rw [front] at first
      cases first
  | cons d rest =>
      rw [front] at first
      cases first
      have kept : trim text = c :: rest := by
        rw [← trimStart_trimEnd, front]
        exact List.dropWhile_cons_of_neg (by simp [solid])
      exact operator (bare c (kept ▸ rfl))

theorem read?_operator (known : op ∈ operators) (bare : Bare (trim text.toList)) :
    read? (op.1 ++ text) = (readSize? (trim text.toList)).map (Threshold.mk op.2) := by
  have trimmed := trim_append (fun _ => isBlank_operator known) (operator_ne_nil known) text.toList
  simp only [read?, String.toList_append, trimmed,
    Comparison.read?_operator known (bare_trimEnd bare), trimStart_trimEnd]

end Reading

def Meets (pattern : String) (x : Float) : Prop :=
  ∃ threshold, read? pattern = some threshold ∧ threshold.holds x = true

/-- The patterns of one size split the numbers among them by how they compare to its value. -/
structure Splits (text : String) (value x : Float) : Prop where
  less : Meets ("<" ++ text) x ↔ x < value
  equal : Meets ("=" ++ text) x ↔ (x == value) = true
  more : Meets (">" ++ text) x ↔ value < x
  single : ∃! op, op ∈ singles ∧ Meets (op.1 ++ text) x
  atMost : Meets ("<=" ++ text) x ↔ ¬Meets (">" ++ text) x
  atLeast : Meets (">=" ++ text) x ↔ ¬Meets ("<" ++ text) x
  unequal : Meets ("!=" ++ text) x ↔ ¬Meets ("=" ++ text) x
  doubled : Meets ("==" ++ text) x ↔ Meets ("=" ++ text) x

theorem meets_iff (known : op ∈ operators) (bare : Bare (trim text.toList)) {value x : Float}
    (size : SizeIs (trim text.toList) value) :
    Meets (op.1 ++ text) x ↔ op.2.holds x value = true := by
  have read := readSize?_eq_some_iff.mpr size
  simp only [Meets, read?_operator known bare, read, Option.map_some, Option.some.injEq,
    exists_eq_left', holds]

theorem splits (bare : Bare (trim text.toList)) {value x : Float}
    (size : SizeIs (trim text.toList) value) (number : IsNumber x) : Splits text value x := by
  have holds (op : String × Comparison) (known : op ∈ operators) :
      Meets (op.1 ++ text) x ↔ op.2.holds x value = true := meets_iff known bare size
  have meets (op : String × Comparison) (known : op ∈ operators) :
      Meets (op.1 ++ text) x ↔ op.2.admits (compareNumbers x value) = true := by
    rw [holds op known, holds_eq number size.isNumber]
  have less := meets ("<", .less) (by decide)
  have equal := meets ("=", .equal) (by decide)
  have more := meets (">", .greater) (by decide)
  constructor
  case less => exact (holds ("<", .less) (by decide)).trans decide_eq_true_iff
  case equal => exact holds ("=", .equal) (by decide)
  case more => exact (holds (">", .greater) (by decide)).trans decide_eq_true_iff
  case single =>
    obtain ⟨op, ⟨among, admitted⟩, alone⟩ := single_admits (compareNumbers x value)
    refine ⟨op, ⟨among, (meets _ (mem_operators_of_mem_singles among)).mpr admitted⟩, ?_⟩
    rintro other ⟨among, met⟩
    exact alone other ⟨among, (meets _ (mem_operators_of_mem_singles among)).mp met⟩
  case atMost =>
    rw [meets ("<=", .lessOrEqual) (by decide), more]
    cases compareNumbers x value <;> decide
  case atLeast =>
    rw [meets (">=", .greaterOrEqual) (by decide), less]
    cases compareNumbers x value <;> decide
  case unequal =>
    rw [meets ("!=", .notEqual) (by decide), equal]
    cases compareNumbers x value <;> decide
  case doubled => rw [meets ("==", .equal) (by decide), equal]

section Spacing

/-- Blanks at the ends of a pattern do not count. -/
theorem read?_surrounded {before after : String} (first : Blank before.toList)
    (last : Blank after.toList) (pattern : String) :
    read? (before ++ pattern ++ after) = read? pattern := by
  simp only [read?, String.toList_append, trim_append_blank last, trim_blank_append first]

/-- Neither the blanks around the unit count nor the case of its letters. -/
theorem readSize?_congr {text other number unit unit' : List Char}
    (parted : Parted text number unit) (parted' : Parted other number unit')
    (same : lowerAscii (trim unit') = lowerAscii (trim unit)) :
    readSize? other = readSize? text := by
  simp only [readSize?, parted.span_eq, parted'.span_eq, unitPower?_congr same]

end Spacing

/-- The patterns of one size: the size by itself, and with an operator in front. -/
structure Family (text : String) : Prop where
  /-- All of them can be read or none, and always with the same value. -/
  shared : ∀ op ∈ operators,
    read? (op.1 ++ text) = (read? text).map fun plain => ⟨op.2, plain.value⟩
  /-- Without an operator, numbers equal to the size that is written are meant. -/
  sized : ∀ plain, read? text = some plain ↔
    plain.comparison = .equal ∧ SizeIs (trim text.toList) plain.value
  /-- Every size is a number and splits the numbers. -/
  split : ∀ value, SizeIs (trim text.toList) value →
    IsNumber value ∧ ∀ x, IsNumber x → Splits text value x
  /-- Blanks around them, and after the operator, make no difference. -/
  surrounded : ∀ before between after, Blank before.toList → Blank between.toList →
    Blank after.toList →
      read? (before ++ text ++ after) = read? text ∧
        ∀ op ∈ operators, read? (before ++ op.1 ++ between ++ text ++ after) = read? (op.1 ++ text)
  /-- Blanks around the unit, and the case of its letters, make no difference. -/
  spelled : ∀ other number unit unit', Parted (trim text.toList) number unit →
    Parted (trim other.toList) number unit' → lowerAscii (trim unit') = lowerAscii (trim unit) →
      read? other = read? text ∧ ∀ op ∈ operators, read? (op.1 ++ other) = read? (op.1 ++ text)

/-- Patterns form families: the operators in front of a text that starts with none agree on its
size. -/
theorem family_of_bare {text : String} (bare : Bare (trim text.toList)) : Family text := by
  constructor
  case shared =>
    intro op known
    rw [read?_operator known bare, read?_bare bare, Option.map_map]
    rfl
  case sized =>
    intro plain
    rw [read?_bare bare, Option.map_eq_some_iff]
    constructor
    · rintro ⟨value, size, rfl⟩
      exact ⟨rfl, readSize?_eq_some_iff.mp size⟩
    · rintro ⟨same, size⟩
      exact ⟨plain.value, readSize?_eq_some_iff.mpr size, by rw [← same]⟩
  case split =>
    intro value size
    exact ⟨size.isNumber, fun x number => splits bare size number⟩
  case surrounded =>
    intro before between after first middle last
    refine ⟨read?_surrounded first last text, fun op known => ?_⟩
    have spaced : trim (between ++ text).toList = trim text.toList := by
      rw [String.toList_append, trim_blank_append middle]
    have inner : before ++ op.1 ++ between ++ text ++ after =
        before ++ (op.1 ++ (between ++ text)) ++ after := by
      simp only [String.append_assoc]
    rw [inner, read?_surrounded first last, read?_operator known (spaced ▸ bare),
      read?_operator known bare, spaced]
  case spelled =>
    intro other number unit unit' parted parted' same
    have sizes := readSize?_congr parted parted' same
    have bare' : Bare (trim other.toList) := parted'.bare
    refine ⟨?_, fun op known => ?_⟩
    · rw [read?_bare bare', read?_bare bare, sizes]
    · rw [read?_operator known bare', read?_operator known bare, sizes]

theorem family_of_mebibytes : Bare (trim "1.5 MiB".toList) ∧
    (read? "1.5 MiB").map Threshold.value = some (1.5 * Float.ofNat (1024 ^ 2)) ∧
      (read? "10 parsecs").isNone = true ∧ Family "1.5 MiB" :=
  ⟨by decide, by decide +kernel, by decide +kernel, family_of_bare (by decide)⟩

end Threshold

end LiveList
