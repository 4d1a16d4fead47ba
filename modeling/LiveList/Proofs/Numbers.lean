import LiveList.Handler
import Mathlib.Algebra.Group.Int.Defs
import Mathlib.Algebra.Group.Nat.Defs
import Mathlib.Data.Nat.Log

/-!
Doubles that can be put in order. All of them can be compared, except for what is not a number; and
sums, products and quotients of the kinds that properties are made of are numbers.
-/

namespace LiveList.Numbers

open Float.Model Float.Model.UnpackedFloat

def isNumber : UnpackedFloat → Bool
  | .notANumber => false
  | .zero _ | .finite .. | .infinity _ => true

def IsNumber (x : Float) : Prop := isNumber x.toModel.unpack = true

instance (x : Float) : Decidable (IsNumber x) := inferInstanceAs (Decidable (_ = true))

/-- Where a number stands among all: its kind, then its exponent, then its mantissa. -/
def place : UnpackedFloat → Int × Int × Int
  | .infinity .negative => (-2, 0, 0)
  | .finite .negative mantissa exponent _ => (-1, -exponent, -mantissa)
  | .zero _ | .notANumber => (0, 0, 0)
  | .finite .positive mantissa exponent _ => (1, exponent, mantissa)
  | .infinity .positive => (2, 0, 0)

def comparePlaces (a b : Int × Int × Int) : Ordering :=
  (compare a.1 b.1).then ((compare a.2.1 b.2.1).then (compare a.2.2 b.2.2))

instance : Std.TransCmp comparePlaces :=
  inferInstanceAs (Std.TransCmp (compareLex (compareOn fun place : Int × Int × Int => place.1)
    (compareLex (compareOn (·.2.1)) (compareOn (·.2.2)))))

theorem compare_neg (a b : Int) : compare (-a) (-b) = (compare a b).swap := by
  rw [← Std.OrientedCmp.eq_swap]
  simp only [compare, compareOfLessAndEq]
  grind

theorem compare_cast (a b : Nat) : compare (a : Int) (b : Int) = compare a b := by
  simp only [compare, compareOfLessAndEq]
  grind

theorem compare_places {x y : UnpackedFloat} (left : isNumber x = true)
    (right : isNumber y = true) : x.compare y = some (comparePlaces (place x) (place y)) := by
  cases x with
  | notANumber => cases left
  | infinity s | zero s =>
      cases y with
      | notANumber => cases right
      | infinity t | finite t | zero t => cases s <;> cases t <;> rfl
  | finite s m e =>
      cases y with
      | notANumber => cases right
      | infinity t | zero t => cases s <;> cases t <;> rfl
      | finite t n f =>
          cases s <;> cases t
          · change some ((compare e f).then (compare m n)).swap =
              some (comparePlaces (-1, -e, -m) (-1, -f, -n))
            simp only [comparePlaces, compare_neg, compare_cast, Ordering.swap_then]
            rfl
          · rfl
          · rfl
          · change some ((compare e f).then (compare m n)) =
              some (comparePlaces (1, e, m) (1, f, n))
            simp only [comparePlaces, compare_cast]
            rfl

theorem lt_iff {a b : Float} : a < b ↔ a.toModel.unpack.compare b.toModel.unpack = some .lt := by
  show decide (a.toModel < b.toModel) = true ↔ _
  rw [decide_eq_true_iff]
  show (a.toModel.unpack.compare b.toModel.unpack == some .lt) = true ↔ _
  exact beq_iff_eq

/-- Numbers are in the order of their places. -/
theorem compareNumbers_eq {a b : Float} (left : IsNumber a) (right : IsNumber b) :
    compareNumbers a b = comparePlaces (place a.toModel.unpack) (place b.toModel.unpack) := by
  simp only [compareNumbers, lt_iff, compare_places left right, compare_places right left,
    Option.some_inj]
  have swap : comparePlaces (place b.toModel.unpack) (place a.toModel.unpack) =
      (comparePlaces (place a.toModel.unpack) (place b.toModel.unpack)).swap :=
    Std.OrientedCmp.eq_swap
  rw [swap]
  cases comparePlaces (place a.toModel.unpack) (place b.toModel.unpack) <;> rfl

theorem compare_numbers {a b : Float} (left : IsNumber a) (right : IsNumber b) :
    a.toModel.unpack.compare b.toModel.unpack = some (compareNumbers a b) := by
  rw [compareNumbers_eq left right, compare_places left right]

theorem compareNumbers_swap {a b : Float} (left : IsNumber a) (right : IsNumber b) :
    compareNumbers b a = (compareNumbers a b).swap := by
  rw [compareNumbers_eq left right, compareNumbers_eq right left]
  exact Std.OrientedCmp.eq_swap

theorem lt_eq {a b : Float} (left : IsNumber a) (right : IsNumber b) :
    decide (a < b) = (compareNumbers a b).isLT := by
  rw [Bool.eq_iff_iff, decide_eq_true_iff, lt_iff, compare_numbers left right]
  cases compareNumbers a b <;> decide

theorem le_eq {a b : Float} (left : IsNumber a) (right : IsNumber b) :
    decide (a ≤ b) = (compareNumbers a b).isLE := by
  have order := compare_numbers left right
  rw [Bool.eq_iff_iff, decide_eq_true_iff]
  show decide (a.toModel ≤ b.toModel) = true ↔ _
  rw [decide_eq_true_iff]
  show (a.toModel.unpack.compare b.toModel.unpack).any Ordering.isLE = true ↔ _
  rw [order, Option.any_some]

theorem beq_eq {a b : Float} (left : IsNumber a) (right : IsNumber b) :
    (a == b) = (compareNumbers a b).isEq := by
  show (a.toModel.unpack.compare b.toModel.unpack == some .eq) = _
  rw [compare_numbers left right]
  cases compareNumbers a b <;> rfl

section Rounding

variable {f : UnpackedFloat}

def isUpward : UnpackedFloat → Bool
  | .zero _ | .finite .positive .. | .infinity .positive => true
  | _ => false

def isPositive : UnpackedFloat → Bool
  | .finite .positive .. => true
  | _ => false

def sign? : UnpackedFloat → Option Sign
  | .notANumber => none
  | .zero sign | .finite sign .. | .infinity sign => some sign

theorem isNumber_eq (f : UnpackedFloat) : isNumber f = (sign? f).isSome := by
  cases f <;> rfl

theorem upward_of_sign (positive : sign? f = some .positive) : isUpward f = true := by
  cases f with
  | notANumber => cases positive
  | zero => rfl
  | finite | infinity =>
      cases Option.some.inj positive
      rfl

theorem upward_cases (upward : isUpward f = true) :
    (∃ sign, f = .zero sign) ∨ (∃ m e above, f = .finite .positive m e above) ∨
      f = .infinity .positive := by
  cases f with
  | notANumber => cases upward
  | zero sign => exact .inl ⟨sign, rfl⟩
  | finite sign m e above =>
      cases sign with
      | negative => cases upward
      | positive => exact .inr (.inl ⟨m, e, above, rfl⟩)
  | infinity sign =>
      cases sign with
      | negative => cases upward
      | positive => exact .inr (.inr rfl)

theorem positive_cases (positive : isPositive f = true) :
    ∃ m e above, f = .finite .positive m e above := by
  cases f with
  | infinity | zero | notANumber => cases positive
  | finite sign m e above =>
      cases sign with
      | negative => cases positive
      | positive => exact ⟨m, e, above, rfl⟩

theorem unpackSign_packComponents {spec : Format} (sign : Sign)
    (exponent : BitVec spec.exponentBits) (mantissa : BitVec spec.mantissaBitsWithoutImplicit) :
    unpackSign (packComponents spec sign exponent mantissa) = sign.toBitVec := by
  ext i inside
  have first : i = 0 := by omega
  subst first
  change (BitVec.cast _ (BitVec.extractLsb _ _ (sign.toBitVec ++ exponent ++ mantissa)))[0] = _
  simp [BitVec.getLsbD_append, BitVec.getElem_append]

theorem ofBitVec_toBitVec (sign : Sign) : Sign.ofBitVec sign.toBitVec = sign := by
  cases sign <;> rfl

/-- A word with neither the least nor the greatest exponent has a leading one. -/
theorem unpack_leading (spec : Format) (word : BitVec spec.numBits)
    (less : unpackExponent word ≠ -1#_) (more : unpackExponent word ≠ 0#_) :
    ∃ above, unpack spec word =
      .finite (Sign.ofBitVec (unpackSign word)) (1#1 ++ unpackMantissa word).toNat
        ((unpackExponent word).toNat - (spec.exponentBias + spec.mantissaBitsWithoutImplicit))
        above := by
  have above : 0 < (1#1 ++ unpackMantissa word).toNat := by simp
  unfold UnpackedFloat.unpack
  dsimp only
  rw [if_neg less, if_neg more]
  exact ⟨above, rfl⟩

/-- A word without the greatest exponent is zero or finite. -/
theorem unpack_bounded (spec : Format) (word : BitVec spec.numBits)
    (less : unpackExponent word ≠ -1#_) :
    unpack spec word = .zero (Sign.ofBitVec (unpackSign word)) ∨
      ∃ m e above, unpack spec word = .finite (Sign.ofBitVec (unpackSign word)) m e above := by
  by_cases least : unpackExponent word = 0#_
  · unfold UnpackedFloat.unpack
    dsimp only
    rw [if_neg less, if_pos least]
    by_cases zero : unpackMantissa word = 0#_
    · rw [dif_pos zero]
      exact .inl rfl
    · rw [dif_neg zero]
      have above : 0 < (unpackMantissa word).toNat :=
        Nat.pos_of_ne_zero fun none => zero (BitVec.eq_of_toNat_eq none)
      exact .inr ⟨_, _, above, rfl⟩
  · obtain ⟨above, unpacked⟩ := unpack_leading spec word less least
    exact .inr ⟨_, _, above, unpacked⟩

theorem small_exponent (spec : Format) (exponent : Nat)
    (less : exponent + 1 < 2 ^ spec.exponentBits) :
    BitVec.ofNat spec.exponentBits exponent ≠ -1#_ := by
  intro same
  have numbers := congrArg BitVec.toNat same
  rw [BitVec.toNat_ofNat, Nat.mod_eq_of_lt (by omega), BitVec.neg_one_eq_allOnes,
    BitVec.toNat_allOnes] at numbers
  omega

/-- Packing may turn a number into zero or infinity, but keeps its sign. -/
theorem sign?_pack (f : UnpackedFloat) :
    sign? (unpack Format.binary64 (pack Format.binary64 f)) = sign? f := by
  have packed (sign : Sign) (exponent : BitVec 11) (mantissa : BitVec 52)
      (less : exponent ≠ -1#_) :
      sign? (unpack Format.binary64 (packComponents Format.binary64 sign exponent mantissa)) =
        some sign := by
    have read := unpack_bounded Format.binary64
      (packComponents Format.binary64 sign exponent mantissa)
      (by rwa [unpackExponent_packComponents])
    rw [unpackSign_packComponents, ofBitVec_toBitVec] at read
    rcases read with zero | ⟨_, _, _, finite⟩
    · rw [zero]
      rfl
    · rw [finite]
      rfl
  cases f with
  | notANumber => rfl
  | zero s | infinity s => cases s <;> rfl
  | finite s m e above =>
      change _ = some s
      unfold UnpackedFloat.pack
      dsimp only
      split
      · cases s <;> rfl
      · rename_i fits
        split
        · exact packed _ _ _ (small_exponent Format.binary64 _ (Nat.lt_of_not_le fits))
        · exact packed _ _ _ (by decide)

/-- What is packed as an upward number is one when it is unpacked, if only infinity. -/
theorem upward_pack (upward : isUpward f = true) :
    isUpward (unpack Format.binary64 (pack Format.binary64 f)) = true := by
  rcases upward_cases upward with ⟨s, rfl⟩ | ⟨m, e, above, rfl⟩ | rfl
  · cases s <;> decide +kernel
  · exact upward_of_sign (sign?_pack _)
  · decide +kernel

theorem isNumber_pack (number : isNumber f = true) :
    isNumber (unpack Format.binary64 (pack Format.binary64 f)) = true := by
  rwa [isNumber_eq, sign?_pack, ← isNumber_eq]

theorem sign?_round (spec : Format) (sign : Sign) (m : Nat) (e : Int) (accuracy : Accuracy) :
    sign? (roundWithAccuracy spec sign m e accuracy) = some sign := by
  unfold roundWithAccuracy
  dsimp only
  generalize shiftToTargetExponent spec _ _ .exact = final
  by_cases zero : final.1.mantissa = 0
  · rw [dif_pos zero]
    rfl
  · rw [dif_neg zero]
    rfl

theorem upward_round (spec : Format) (m : Nat) (e : Int) (accuracy : Accuracy) :
    isUpward (roundWithAccuracy spec .positive m e accuracy) = true :=
  upward_of_sign (sign?_round _ _ _ _ _)

theorem isNumber_neg (number : isNumber f = true) : isNumber f.neg = true := by
  cases f with
  | notANumber => cases number
  | zero | finite | infinity => rfl

theorem isNumber_mul {x y : UnpackedFloat} (left : isNumber x = true)
    (right : isPositive y = true) : isNumber (UnpackedFloat.mul Format.binary64 x y) = true := by
  obtain ⟨n, f, _, rfl⟩ := positive_cases right
  cases x with
  | notANumber => cases left
  | zero | infinity => rfl
  | finite s m e =>
      rw [isNumber_eq]
      exact congrArg Option.isSome (sign?_round _ _ _ _ _)

theorem upward_normalize (spec : Format) {m : Int} (e : Int) (upward : 0 ≤ m) :
    isUpward (UnpackedFloat.normalize spec m e .positive) = true := by
  unfold UnpackedFloat.normalize
  split
  · rename_i below
    exact absurd (Int.compare_eq_lt.mp below) (by omega)
  · rfl
  · exact upward_round spec _ _ _

theorem upward_add {x y : UnpackedFloat} (left : isUpward x = true) (right : isUpward y = true) :
    isUpward (UnpackedFloat.add Format.binary64 x y) = true := by
  rcases upward_cases left with ⟨s, rfl⟩ | ⟨m, e, _, rfl⟩ | rfl <;>
    rcases upward_cases right with ⟨t, rfl⟩ | ⟨n, f, _, rfl⟩ | rfl
  case inr.inl.inr.inl =>
    exact upward_normalize _ _ (Int.add_nonneg (Int.natCast_nonneg _) (Int.natCast_nonneg _))
  case inl.inl => cases s <;> cases t <;> rfl
  all_goals rfl

theorem upward_mul {x y : UnpackedFloat} (left : isUpward x = true) (right : isPositive y = true) :
    isUpward (UnpackedFloat.mul Format.binary64 x y) = true := by
  obtain ⟨n, f, _, rfl⟩ := positive_cases right
  rcases upward_cases left with ⟨s, rfl⟩ | ⟨m, e, _, rfl⟩ | rfl
  · rfl
  · exact upward_round _ _ _ _
  · rfl

theorem upward_div {x y : UnpackedFloat} (left : isUpward x = true) (right : isPositive y = true) :
    isUpward (UnpackedFloat.div Format.binary64 x y) = true := by
  obtain ⟨n, f, _, rfl⟩ := positive_cases right
  rcases upward_cases left with ⟨s, rfl⟩ | ⟨m, e, _, rfl⟩ | rfl
  · rfl
  · exact upward_round _ _ _ _
  · rfl

/-- Digits times a power of ten are an upward number, if only zero or infinity. -/
theorem upward_scientific (m : Nat) (e : Int) :
    isUpward (UnpackedFloat.ofScientific Format.binary64 m e) = true := by
  unfold UnpackedFloat.ofScientific
  by_cases none : m = 0
  · rw [dif_pos none]
    rfl
  rw [dif_neg none]
  by_cases large : e > 2 ^ Format.binary64.exponentBits
  · rw [if_pos large]
    rfl
  rw [if_neg large]
  by_cases small : e < -(2 ^ Format.binary64.exponentBits + m.log2)
  · rw [if_pos small]
    rfl
  rw [if_neg small]
  by_cases whole : 0 ≤ e
  · rw [if_pos whole]
    exact upward_mul rfl rfl
  · rw [if_neg whole]
    exact upward_div rfl rfl

theorem finite_congr {s t : Sign} {m n : Nat} {e f : Int} {above : 0 < m} {above' : 0 < n}
    (sign : s = t) (mantissa : m = n) (exponent : e = f) :
    UnpackedFloat.finite s m e above = .finite t n f above' := by
  subst sign mantissa exponent
  rfl

/-- The leading one of a full mantissa is left out of the word and put back. -/
theorem leading_mantissa {m : Nat} (above : 0 < m) (full : m.log2 = 52) :
    (1#1 ++ BitVec.ofNat 52 m).toNat = m := by
  obtain ⟨least, most⟩ := (Nat.log2_eq_iff above.ne').mp full
  have ending : (BitVec.ofNat 52 m).toNat = m - 2 ^ 52 := by
    rw [BitVec.toNat_ofNat]
    omega
  have split := Nat.shiftLeft_add_eq_or_of_lt (BitVec.ofNat 52 m).isLt 1
  rw [BitVec.toNat_append, BitVec.toNat_ofNat, Nat.mod_eq_of_lt (by decide), ← split, ending]
  omega

/-- A normal number is read back from the word that it is packed into. -/
theorem unpack_pack_normal (sign : Sign) {m : Nat} {e : Int} (above : 0 < m) (full : m.log2 = 52)
    (low : -1074 ≤ e) (high : e ≤ 971) :
    unpack Format.binary64 (pack Format.binary64 (.finite sign m e above)) =
      .finite sign m e above := by
  have exponent : (BitVec.ofNat 11 (e + 1023 + 52).toNat).toNat = (e + 1023 + 52).toNat := by
    rw [BitVec.toNat_ofNat, Nat.mod_eq_of_lt (by omega)]
  have more : BitVec.ofNat 11 (e + 1023 + 52).toNat ≠ 0 := by
    intro none
    rw [none] at exponent
    change 0 = _ at exponent
    omega
  have packed : pack Format.binary64 (.finite sign m e above) =
      packComponents Format.binary64 sign (BitVec.ofNat 11 (e + 1023 + 52).toNat)
        (BitVec.ofNat 52 m) := by
    unfold UnpackedFloat.pack
    dsimp only
    rw [if_neg (by change ¬2 ^ 11 ≤ (e + 1023 + 52).toNat + 1; omega), if_pos (by rw [full]; rfl)]
    rfl
  have less := small_exponent Format.binary64 (e + 1023 + 52).toNat
    (by change (e + 1023 + 52).toNat + 1 < 2 ^ 11; omega)
  obtain ⟨_, unpacked⟩ := unpack_leading Format.binary64
    (packComponents Format.binary64 sign (BitVec.ofNat 11 (e + 1023 + 52).toNat)
      (BitVec.ofNat 52 m))
    (by rwa [unpackExponent_packComponents]) (by rwa [unpackExponent_packComponents])
  rw [packed, unpacked]
  refine finite_congr ?_ ?_ ?_
  · rw [unpackSign_packComponents, ofBitVec_toBitVec]
  · rw [unpackMantissa_packComponents]
    exact leading_mantissa above full
  · rw [unpackExponent_packComponents]
    change ((BitVec.ofNat 11 (e + 1023 + 52).toNat).toNat : Int) - (1023 + 52) = e
    omega

/-- A full mantissa is read back, unless its exponent is too great for a word; then it is
infinity. -/
theorem unpack_pack_above {m : Nat} {e : Int} (above : 0 < m) (full : m.log2 = 52)
    (low : -1074 ≤ e) :
    isPositive (unpack Format.binary64 (pack Format.binary64 (.finite .positive m e above))) =
        true ∨
      unpack Format.binary64 (pack Format.binary64 (.finite .positive m e above)) =
        .infinity .positive := by
  rcases Int.lt_or_le 971 e with great | high
  · right
    have packed : pack Format.binary64 (.finite .positive m e above) =
        packedInfinity Format.binary64 .positive := by
      unfold UnpackedFloat.pack
      dsimp only
      rw [if_pos (by change 2048 ≤ (e + 1023 + 52).toNat + 1; omega)]
    rw [packed]
    rfl
  · left
    rw [unpack_pack_normal .positive above full low high]
    rfl

theorem shiftRight_mantissa (em : ExtendedMantissa) (k : Nat) :
    (em >>> k).mantissa = em.mantissa / 2 ^ k := by
  induction k with
  | zero => exact (Nat.div_one _).symm
  | succ k ih =>
      change (em >>> k).mantissa / 2 = _
      rw [ih, Nat.div_div_eq_div_mul, Nat.pow_succ]

theorem rounded_bounds (em : ExtendedMantissa) :
    em.mantissa ≤ em.roundedMantissa ∧ em.roundedMantissa ≤ em.mantissa + 1 := by
  obtain ⟨m, round, sticky⟩ := em
  cases round <;> cases sticky <;>
    simp only [ExtendedMantissa.roundedMantissa, ExtendedMantissa.accuracy,
      Accuracy.roundToNearestEven] <;> grind

/-- A mantissa of at least 53 bits is cut to 53 bits when it is not among the least numbers. -/
theorem shift_normal {m : Nat} {e : Int} (wide : 52 ≤ m.log2) (low : -1022 ≤ e + m.log2) :
    ((shiftToTargetExponent Format.binary64 m e .exact).1.mantissa).log2 = 52 ∧
      (shiftToTargetExponent Format.binary64 m e .exact).2 = e + m.log2 - 52 := by
  obtain ⟨k, bits⟩ := Nat.exists_eq_add_of_le wide
  have target : Format.binary64.targetExponent (totalExponent m e) - e = k := by
    change max ((m.log2 : Int) + 1 + e - 53) (3 - 2 ^ 10 - 53) - e = k
    omega
  unfold shiftToTargetExponent shiftToExponent
  simp only [target, Int.toNat_natCast, shiftRight_mantissa]
  constructor
  · change (m / 2 ^ k).log2 = 52
    rw [Nat.log2_eq_log_two, Nat.log_div_base_pow, ← Nat.log2_eq_log_two, bits]
    omega
  · omega

/-- A wide mantissa that is not among the least numbers is rounded to a normal number, whose
exponent may be one more than that of the number itself. -/
theorem round_normal (sign : Sign) {m : Nat} {e : Int} (wide : 52 ≤ m.log2)
    (low : -1022 ≤ e + m.log2) :
    ∃ m' e' above, roundWithAccuracy Format.binary64 sign m e .exact = .finite sign m' e' above ∧
      m'.log2 = 52 ∧ e + m.log2 - 52 ≤ e' ∧ e' ≤ e + m.log2 - 51 := by
  obtain ⟨cut, exponent⟩ := shift_normal wide low
  obtain ⟨down, up⟩ := rounded_bounds (shiftToTargetExponent Format.binary64 m e .exact).1
  unfold roundWithAccuracy
  generalize shiftToTargetExponent Format.binary64 m e .exact = first at *
  obtain ⟨em, e₁⟩ := first
  dsimp only at *
  have some : em.mantissa ≠ 0 := fun none => by simp [none] at cut
  obtain ⟨least, most⟩ := (Nat.log2_eq_iff some).mp cut
  -- Rounding up may carry into one bit more, and the second shift takes it off again.
  have rounded : em.roundedMantissa.log2 = 52 ∨ em.roundedMantissa.log2 = 53 := by
    rcases Nat.lt_or_ge em.roundedMantissa (2 ^ 53) with less | more
    · exact .inl ((Nat.log2_eq_iff (by omega)).mpr ⟨by omega, less⟩)
    · exact .inr ((Nat.log2_eq_iff (by omega)).mpr ⟨more, by omega⟩)
  obtain ⟨full, final⟩ := shift_normal (m := em.roundedMantissa) (e := e₁) (by omega) (by omega)
  generalize shiftToTargetExponent Format.binary64 em.roundedMantissa e₁ .exact = second at *
  obtain ⟨em', e₂⟩ := second
  dsimp only at *
  have above : em'.mantissa ≠ 0 := fun none => by simp [none] at full
  rw [dif_neg above]
  exact ⟨_, _, _, rfl, full, by omega, by omega⟩

/-- A rounded number of middle size is read back from its word. -/
theorem unpack_pack_round (sign : Sign) {m : Nat} {e : Int} (wide : 52 ≤ m.log2)
    (low : -1022 ≤ e + m.log2) (high : e + m.log2 ≤ 1021) :
    ∃ m' e' above, unpack Format.binary64 (pack Format.binary64
        (roundWithAccuracy Format.binary64 sign m e .exact)) = .finite sign m' e' above ∧
      m'.log2 = 52 ∧ e + m.log2 - 52 ≤ e' ∧ e' ≤ e + m.log2 - 51 := by
  obtain ⟨m', e', above, rounded, full, least, most⟩ := round_normal sign wide low
  refine ⟨m', e', above, ?_, full, least, most⟩
  rw [rounded, unpack_pack_normal sign above full (by omega) (by omega)]

theorem log2_mul_two_pow {m : Nat} (above : 0 < m) (k : Nat) : (m * 2 ^ k).log2 = m.log2 + k := by
  induction k with
  | zero => rw [Nat.pow_zero, Nat.mul_one, Nat.add_zero]
  | succ k ih =>
      rw [Nat.pow_succ, ← Nat.mul_assoc, Nat.log2_eq_log_two, Nat.log_mul_base (by decide),
        ← Nat.log2_eq_log_two, ih, Nat.add_assoc]
      exact Nat.mul_ne_zero above.ne' (Nat.two_pow_pos k).ne'

end Rounding

def Upward (x : Float) : Prop := isUpward x.toModel.unpack = true

def Positive (x : Float) : Prop := isPositive x.toModel.unpack = true

instance (x : Float) : Decidable (Positive x) := inferInstanceAs (Decidable (_ = true))

theorem Upward.isNumber {x : Float} (upward : Upward x) : IsNumber x := by
  rw [IsNumber]
  rcases upward_cases upward with ⟨_, zero⟩ | ⟨_, _, _, finite⟩ | infinite
  · rw [zero]
    rfl
  · rw [finite]
    rfl
  · rw [infinite]
    rfl

theorem Upward.add {x y : Float} (left : Upward x) (right : Upward y) : Upward (x + y) :=
  upward_pack (upward_add left right)

theorem Upward.mul {x y : Float} (left : Upward x) (right : Positive y) : Upward (x * y) :=
  upward_pack (upward_mul left right)

theorem Upward.div {x y : Float} (left : Upward x) (right : Positive y) : Upward (x / y) :=
  upward_pack (upward_div left right)

theorem IsNumber.neg {x : Float} (number : IsNumber x) : IsNumber (-x) :=
  isNumber_pack (isNumber_neg number)

theorem IsNumber.mul {x y : Float} (left : IsNumber x) (right : Positive y) : IsNumber (x * y) :=
  isNumber_pack (isNumber_mul left right)

def one : Float := Float.ofBits 0x3FF0000000000000

theorem one_unpacked : one.toModel.unpack = .finite .positive (2 ^ 52) (-52) (by decide) := rfl

theorem ofNat_narrow {n : Nat} (narrow : n < 2 ^ 53) :
    Float.ofNat n = n.toUInt64.toFloat * one := by
  change Float.ofScientific n false 0 = _
  unfold Float.ofScientific
  rw [dif_pos ⟨narrow, by decide⟩]
  rfl

theorem ofNat_wide {n : Nat} (wide : 2 ^ 53 ≤ n) :
    (Float.ofNat n).toModel.unpack = unpack Format.binary64 (pack Format.binary64
      (roundWithAccuracy Format.binary64 .positive ((n <<< 53) * 1) (-53) .exact)) := by
  change (Float.ofScientific n false 0).toModel.unpack = _
  unfold Float.ofScientific
  rw [dif_neg (by omega)]
  change unpack Format.binary64 (pack Format.binary64
    (UnpackedFloat.ofScientific Format.binary64 n 0)) = _
  unfold UnpackedFloat.ofScientific
  have inside : ¬(0 : Int) < -(2 ^ 11 + n.log2) := by omega
  rw [dif_neg (by omega), if_neg (by decide), if_neg inside, if_pos (by decide)]
  rfl

theorem toFloat_unpacked (n : UInt64) :
    n.toFloat.toModel.unpack = unpack Format.binary64 (pack Format.binary64
      (UnpackedFloat.normalize Format.binary64 n.toNat 0 .positive)) := rfl

theorem upward_toFloat (n : UInt64) : Upward n.toFloat := by
  rw [Upward, toFloat_unpacked]
  exact upward_pack (upward_normalize _ _ (Int.natCast_nonneg _))

theorem positive_exactPower :
    ∀ e : Fin 23, Positive (Float.exactlyRepresentablePowersOfTen[e]) := by
  decide +kernel

/-- Decimals are zero or more, however large or small they are. -/
theorem upward_ofScientific (m : Nat) (divided : Bool) (e : Nat) :
    Upward (Float.ofScientific m divided e) := by
  unfold Float.ofScientific
  split
  · rename_i short
    -- Few digits and a small power: both are doubles, and one operation rounds.
    have power := positive_exactPower ⟨e, Nat.lt_succ_of_le short.2⟩
    dsimp only
    split
    · exact (upward_toFloat _).div power
    · exact (upward_toFloat _).mul power
  · exact upward_pack (upward_scientific _ _)

/-- Whole numbers are zero or more, however large they are. -/
theorem upward_ofNat (n : Nat) : Upward (Float.ofNat n) := upward_ofScientific n false 0

theorem isNumber_ofNat (n : Nat) : IsNumber (Float.ofNat n) := (upward_ofNat n).isNumber

/-- A positive whole number of at most 53 bits is a normal number. -/
theorem toFloat_normal {n : UInt64} (above : 0 < n.toNat) (narrow : n.toNat < 2 ^ 53) :
    ∃ m e above, n.toFloat.toModel.unpack = .finite .positive m e above ∧
      m.log2 = 52 ∧ -52 ≤ e ∧ e ≤ 1 := by
  have bits : n.toNat.log2 < 53 := (Nat.log2_lt above.ne').mpr narrow
  obtain ⟨k, filled⟩ := Nat.exists_eq_add_of_le (Nat.le_of_lt_succ bits)
  have shifted : (n.toNat <<< k).log2 = 52 := by
    rw [Nat.shiftLeft_eq, log2_mul_two_pow above, filled]
  -- A narrow number is widened to 53 bits first, so that nothing is rounded away.
  have rounded : UnpackedFloat.normalize Format.binary64 n.toNat 0 .positive =
      roundWithAccuracy Format.binary64 .positive (n.toNat <<< k) (0 - k) .exact := by
    have more : compare (n.toNat : Int) 0 = .gt := Int.compare_eq_gt.mpr (by omega)
    have target : (0 - Format.binary64.targetExponent (totalExponent n.toNat 0)).toNat = k := by
      change (0 - max ((n.toNat.log2 : Int) + 1 + 0 - 53) (3 - 2 ^ 10 - 53)).toNat = k
      omega
    simp only [UnpackedFloat.normalize, more, UnpackedFloat.round, decreaseExponent, target,
      Int.toNat_natCast]
  obtain ⟨m, e, positive, unpacked, full, low, high⟩ :=
    unpack_pack_round .positive (m := n.toNat <<< k) (e := 0 - k) (by omega) (by omega) (by omega)
  rw [toFloat_unpacked, rounded]
  exact ⟨m, e, positive, unpacked, full, by omega, by omega⟩

/-- The double of a positive 64-bit number is finite and positive. -/
theorem positive_ofNat {n : Nat} (above : 0 < n) (fits : n < UInt64.size) :
    Positive (Float.ofNat n) := by
  -- Up to 53 bits a number is converted as a word, and beyond that as a decimal.
  rcases Nat.lt_or_ge n (2 ^ 53) with narrow | wide
  · have word : n.toUInt64.toNat = n := UInt64.toNat_ofNat_of_lt' fits
    obtain ⟨m, e, _, unpacked, full, low, high⟩ :=
      toFloat_normal (n := n.toUInt64) (by omega) (by omega)
    have product : (m * 2 ^ 52).log2 = 104 := by rw [log2_mul_two_pow (by omega), full]
    obtain ⟨_, _, _, final, _⟩ :=
      unpack_pack_round .positive (m := m * 2 ^ 52) (e := e + -52) (by omega) (by omega) (by omega)
    rw [ofNat_narrow narrow, Positive]
    change isPositive (unpack Format.binary64 (pack Format.binary64
      (UnpackedFloat.mul Format.binary64 n.toUInt64.toFloat.toModel.unpack one.toModel.unpack))) = _
    rw [unpacked, one_unpacked]
    change isPositive (unpack Format.binary64 (pack Format.binary64
      (roundWithAccuracy Format.binary64 .positive (m * 2 ^ 52) (e + -52) .exact))) = _
    rw [final]
    rfl
  · have bits : n.log2 < 64 := (Nat.log2_lt above.ne').mpr fits
    have product : ((n <<< 53) * 1).log2 = n.log2 + 53 := by
      rw [Nat.mul_one, Nat.shiftLeft_eq, log2_mul_two_pow above]
    obtain ⟨_, _, _, final, _⟩ :=
      unpack_pack_round .positive (m := (n <<< 53) * 1) (e := -53) (by omega) (by omega) (by omega)
    rw [Positive, ofNat_wide wide, final]
    rfl

def Above (x : Float) : Prop := Positive x ∨ x.toModel.unpack = .infinity .positive

/-- The double of a positive number is above zero, however large the number is. -/
theorem above_ofNat {n : Nat} (above : 0 < n) : Above (Float.ofNat n) := by
  rcases Nat.lt_or_ge n UInt64.size with fits | wide
  · exact .inl (positive_ofNat above fits)
  · have most : 2 ^ 64 ≤ n := wide
    have bits : 64 ≤ n.log2 := (Nat.le_log2 above.ne').mpr most
    have product : ((n <<< 53) * 1).log2 = n.log2 + 53 := by
      rw [Nat.mul_one, Nat.shiftLeft_eq, log2_mul_two_pow above]
    obtain ⟨m, e, positive, rounded, full, low, _⟩ :=
      round_normal .positive (m := (n <<< 53) * 1) (e := -53) (by omega) (by omega)
    rw [Above, Positive, ofNat_wide (by omega), rounded]
    exact unpack_pack_above positive full (by omega)

/-- Zero divided by what is above zero is zero. -/
theorem zero_div {x : Float} (above : Above x) : (0 / x == 0) = true := by
  change (unpack Format.binary64 (pack Format.binary64
    (UnpackedFloat.div Format.binary64 (0 : Float).toModel.unpack x.toModel.unpack))).beq
      (0 : Float).toModel.unpack = true
  have zero : (0 : Float).toModel.unpack = .zero .positive := rfl
  rcases above with positive | infinite
  · obtain ⟨m, e, some, finite⟩ := positive_cases positive
    have quotient :
        UnpackedFloat.div Format.binary64 (.zero .positive) (.finite .positive m e some) =
          .zero .positive := rfl
    rw [zero, finite, quotient]
    rfl
  · rw [zero, infinite]
    rfl

/-- What is more than a number is a number. -/
theorem isNumber_of_lt {x y : Float} (more : x < y) : IsNumber y := by
  rw [lt_iff] at more
  rw [IsNumber]
  cases unpacked : y.toModel.unpack with
  | zero | finite | infinity => rfl
  | notANumber =>
      rw [unpacked] at more
      cases other : x.toModel.unpack <;> rw [other] at more <;> cases more

end LiveList.Numbers
