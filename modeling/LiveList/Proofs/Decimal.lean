import LiveList.Decimal.Numeral
import Mathlib.Data.List.Induction
import Mathlib.Data.List.TakeWhile
import Mathlib.Data.Nat.Digits.Defs

/-!
How decimals are written. `Written` relates a numeral to its texts without a reader, and the reader
takes exactly these texts. Digits count in base ten, the last one least.
-/

namespace LiveList.Decimal

def count (digits : List Char) : Nat :=
  Nat.ofDigits 10 (digits.reverse.map fun digit => digit.toNat - '0'.toNat)

theorem digitsValue_eq (digits : List Char) : digitsValue digits = count digits := by
  induction digits using List.reverseRecOn with
  | nil => rfl
  | append_singleton digits digit ih =>
      rw [digitsValue, List.foldl_append, ← digitsValue, ih, count, count, List.reverse_concat,
        List.map_cons, Nat.ofDigits_cons]
      show _ * 10 + (digit.toNat - 48) = (digit.toNat - 48) + 10 * _
      omega

/-- A class of characters is left where its first stretch ends. -/
theorem span_exact {p : Char → Bool} {front rest : List Char} (inside : ∀ c ∈ front, p c = true)
    (apart : ∀ c ∈ rest.head?, p c = false) :
    (front ++ rest).takeWhile p = front ∧ (front ++ rest).dropWhile p = rest := by
  have stop : rest.takeWhile p = [] ∧ rest.dropWhile p = rest := by
    cases rest with
    | nil => exact ⟨rfl, rfl⟩
    | cons c rest =>
        have outside : ¬p c = true := by simp [apart c rfl]
        exact ⟨List.takeWhile_cons_of_neg outside, List.dropWhile_cons_of_neg outside⟩
  rw [List.takeWhile_append_of_pos inside, List.dropWhile_append_of_pos inside, stop.1, stop.2,
    List.append_nil]
  exact ⟨rfl, rfl⟩

namespace Numeral

/-- The sign in front of a number; only a negative one needs it. -/
inductive Sign : Bool → List Char → Prop where
  | minus : Sign true ['-']
  | plus : Sign false ['+']
  | unsigned : Sign false []

/-- The places after the point; a number without them may go without the point. -/
inductive Places : List Char → List Char → Prop where
  | point (fraction : List Char) : Places fraction ('.' :: fraction)
  | pointless : Places [] []

/-- A text writes a numeral but for the sign. -/
structure Unsigned (numeral : Numeral) (text : List Char) : Prop where
  spelled : ∃ places, Places numeral.fraction places ∧ text = numeral.whole ++ places
  whole : ∀ c ∈ numeral.whole, c.isDigit = true
  fraction : ∀ c ∈ numeral.fraction, c.isDigit = true
  present : numeral.whole = [] → numeral.fraction ≠ []

def Written (numeral : Numeral) (text : List Char) : Prop :=
  ∃ sign body, Sign numeral.negative sign ∧ Unsigned numeral body ∧ text = sign ++ body

variable {negative : Bool} {numeral : Numeral} {text : List Char}

theorem readUnsigned?_sound (read : readUnsigned? negative text = some numeral) :
    numeral.negative = negative ∧ Unsigned numeral text := by
  have split := List.takeWhile_append_dropWhile (p := Char.isDigit) (l := text)
  have whole : ∀ c ∈ text.takeWhile Char.isDigit, c.isDigit = true := fun _ member =>
    List.mem_takeWhile_imp member
  unfold readUnsigned? at read
  dsimp only at read
  generalize text.takeWhile Char.isDigit = front at *
  split at read
  case h_1 none =>
    split at read <;> cases read
    rename_i some
    refine ⟨rfl, ⟨[], .pointless, ?_⟩, whole, ?_, ?_⟩
    · rw [← split, none]
    · simp
    · simpa using some
  case h_2 rest point =>
    split at read <;> cases read
    rename_i good
    simp only [Bool.and_eq_true, List.all_eq_true, Bool.not_eq_true', Bool.and_eq_false_imp,
      List.isEmpty_iff, List.isEmpty_eq_false_iff] at good
    exact ⟨rfl, ⟨'.' :: rest, .point rest, by rw [← split, point]⟩, whole, good.1, good.2⟩
  case h_3 => cases read

theorem readUnsigned?_complete (written : Unsigned numeral text) :
    readUnsigned? numeral.negative text = some numeral := by
  obtain ⟨⟨places, after, rfl⟩, whole, fraction, present⟩ := written
  obtain ⟨negative, front, back⟩ := numeral
  have apart : ∀ c ∈ places.head?, c.isDigit = false := by
    cases after with
    | point => rintro c ⟨⟩; rfl
    | pointless => rintro c ⟨⟩
  have spans := span_exact whole apart
  simp only [readUnsigned?, spans]
  cases after with
  | pointless => simpa using present
  | point => simpa using ⟨fraction, present⟩

/-- Without a sign, a number does not start with one. -/
theorem Unsigned.head (written : Unsigned numeral text) : ∀ c ∈ text.head?, c ≠ '-' ∧ c ≠ '+' := by
  obtain ⟨⟨places, after, rfl⟩, whole, _, _⟩ := written
  obtain ⟨negative, front, back⟩ := numeral
  intro c first
  cases front with
  | cons d rest =>
      cases first
      have digit := whole c List.mem_cons_self
      refine ⟨?_, ?_⟩ <;> rintro rfl <;> cases digit
  | nil =>
      cases after with
      | point =>
          cases first
          decide
      | pointless => cases first

theorem read?_eq_some_iff : read? text = some numeral ↔ Written numeral text := by
  constructor
  · intro read
    unfold read? at read
    split at read
    all_goals obtain ⟨sign, written⟩ := readUnsigned?_sound read
    case h_1 rest => exact ⟨['-'], rest, sign ▸ .minus, written, rfl⟩
    case h_2 rest => exact ⟨['+'], rest, sign ▸ .plus, written, rfl⟩
    case h_3 => exact ⟨[], text, sign ▸ .unsigned, written, rfl⟩
  · rintro ⟨sign, body, before, written, rfl⟩
    have read := readUnsigned?_complete written
    obtain ⟨negative, front, back⟩ := numeral
    cases before with
    | minus | plus => exact read
    | unsigned =>
        rw [List.nil_append, read?]
        case unsigned => exact read
        all_goals
          rintro rest rfl
          have apart := written.head _ rfl
          simp at apart

theorem Written.ne_nil (written : Written numeral text) : text ≠ [] := by
  rintro rfl
  cases read?_eq_some_iff.mpr written

end Numeral

/-- The double next to a written number: what its digits count, over ten to as many of them as stand
after the point. -/
def NumberIs (text : List Char) (x : Float) : Prop :=
  ∃ (numeral : Numeral) (size : Float), numeral.Written text ∧
    size = Float.ofScientific (count (numeral.whole ++ numeral.fraction)) true
      numeral.fraction.length ∧
    x = if numeral.negative then -size else size

theorem numberIs_iff {text : List Char} {x : Float} :
    NumberIs text x ↔ ∃ numeral, Numeral.read? text = some numeral ∧ x = numeral.nearest := by
  simp only [Numeral.read?_eq_some_iff, NumberIs, Numeral.nearest, digitsValue_eq,
    exists_and_left, exists_eq_left]

end LiveList.Decimal
