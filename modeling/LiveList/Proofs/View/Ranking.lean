import LiveList.Proofs.Numbers
import LiveList.Proofs.View.StableSort

/-!
Consistent orders and what they are made of: the comparison of keys, one order after another, and
the same the other way round. An order that is made of them is a total preorder, and so is the order
of a handler wherever its numbers are numbers.
-/

namespace LiveList

namespace View

variable {Item Key : Type} {order other : Item → Item → Ordering} {among : Item → Prop}

structure TotalPreorder (order : Item → Item → Ordering) (among : Item → Prop) : Prop where
  refl : ∀ a, among a → order a a = .eq
  swap : ∀ a b, among a → among b → order b a = (order a b).swap
  total : ∀ a b, among a → among b → order a b ≠ .gt ∨ order b a ≠ .gt
  trans : ∀ a b c, among a → among b → among c →
    order a b ≠ .gt → order b c ≠ .gt → order a c ≠ .gt
  alike : ∀ a b c, among a → among b → among c →
    order a b = .eq → order b c = .eq → order a c = .eq

theorem Ranked.totalPreorder (ranked : Ranked order among) : TotalPreorder order among where
  refl _ inside := ranked.refl inside
  swap := ranked.swap
  total a b left right := by
    by_cases above : order a b = .gt
    · exact .inr (ranked.of_gt left right above)
    · exact .inl above
  trans := ranked.trans
  alike a b c one two three first second := by rw [ranked.same one two three first, second]

theorem ranked_iff :
    Ranked order among ↔ Std.TransCmp fun a b : {item // among item} => order a.1 b.1 := by
  constructor
  · intro ranked
    exact {
      eq_swap := fun {a b} => ranked.swap b.1 a.1 b.2 a.2
      isLE_trans := fun {a b c} => by
        simp only [Ordering.isLE_iff_ne_gt]
        exact ranked.trans a.1 b.1 c.1 a.2 b.2 c.2 }
  · intro compared
    refine ⟨fun first second left right => ?_, fun first second third one two three below after => ?_⟩
    · exact compared.eq_swap (a := ⟨second, right⟩) (b := ⟨first, left⟩)
    · exact Ordering.isLE_iff_ne_gt.mp (compared.isLE_trans (a := ⟨first, one⟩) (b := ⟨second, two⟩)
        (c := ⟨third, three⟩) (Ordering.isLE_iff_ne_gt.mpr below) (Ordering.isLE_iff_ne_gt.mpr after))

/-- An order in which all elements share one place. -/
theorem ranked_level : Ranked (fun _ _ : Item => .eq) among where
  swap _ _ _ _ := rfl
  trans _ _ _ _ _ _ level _ := level

theorem ranked_compare (cmp : Key → Key → Ordering) [Std.TransCmp cmp] (key : Item → Key) :
    Ranked (fun a b => cmp (key a) (key b)) among where
  swap _ _ _ _ := Std.OrientedCmp.eq_swap
  trans _ _ _ _ _ _ first second := Ordering.isLE_iff_ne_gt.mp <|
    Std.TransCmp.isLE_trans (Ordering.isLE_iff_ne_gt.mpr first) (Ordering.isLE_iff_ne_gt.mpr second)

theorem Ranked.then (first : Ranked order among) (second : Ranked other among) :
    Ranked (fun a b => (order a b).then (other a b)) among := by
  -- Among the elements in question both are comparisons, and so is one after the other.
  rw [ranked_iff] at *
  exact inferInstanceAs (Std.TransCmp (compareLex
    (fun a b : {item // among item} => order a.1 b.1) (fun a b => other a.1 b.1)))

theorem Ranked.reverse (ranked : Ranked order among) : Ranked (fun a b => order b a) among where
  swap a b left right := ranked.swap b a right left
  trans a b c one two three first second := ranked.trans c b a three two one second first

theorem Ranked.congr (ranked : Ranked order among)
    (same : ∀ a b, among a → among b → other a b = order a b) : Ranked other among where
  swap a b left right := by rw [same b a right left, same a b left right, ranked.swap a b left right]
  trans a b c one two three := by
    rw [same a b one two, same b c two three, same a c one three]
    exact ranked.trans a b c one two three

end View

variable {Item : Type} {among : Item → Prop}

instance instTransCmpChars : Std.TransCmp fun a b : List Char => compareOfLessAndEq a b :=
  Std.TransOrd.compareOfLessAndEq_of_lt_trans_of_lt_iff Std.lt_trans fun a b => by
    rw [Std.not_lt, Std.lt_iff_le_and_ne]

theorem Text.ranked_folded (text : Item → String) :
    View.Ranked (fun a b => compareFolded (text a) (text b)) among :=
  View.ranked_compare (fun a b : List Char => compareOfLessAndEq a b)
    fun item => lowerEach (text item).toList

/-- Numbers are ranked, however large they are. -/
theorem Numbers.ranked {number : Item → Float} (numbers : ∀ item, among item → IsNumber (number item)) :
    View.Ranked (fun a b => compareNumbers (number a) (number b)) among :=
  (View.ranked_compare comparePlaces fun item => place (number item).toModel.unpack).congr
    fun a b left right => compareNumbers_eq (numbers a left) (numbers b right)

namespace Handler

variable {handler : Handler Item} {id : PropertyId}

theorem compare_descending (handler : Handler Item) (id : PropertyId) (a b : Item) :
    handler.compare id false a b = (handler.compare id true a b).swap := by
  unfold compare
  split <;> rfl

/-- The order by a property is consistent if it is so where a property is sorted in a way of its
own, and if the numbers of the property are numbers. -/
theorem ranked (numbers : ∀ item, among item → Numbers.IsNumber (handler.number item id))
    (custom : View.Ranked (handler.order · · id) among) :
    View.Ranked (handler.compare id true) among := by
  unfold compare
  split
  · exact View.ranked_level
  · rename_i property _
    cases property.sort with
    | none => exact View.ranked_level
    | numeric => exact Numbers.ranked numbers
    | text => exact Text.ranked_folded _
    | custom => exact custom

end Handler

end LiveList
