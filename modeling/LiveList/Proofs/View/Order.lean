import LiveList.View.Order

/-!
Lists in order. Where the order of some elements is consistent, sorting puts them in order, and the
search finds the place of a new element that keeps them so. Wherever else the search ends, it ends
inside the list.
-/

namespace LiveList.View

variable {Item : Type} {order : Item → Item → Ordering} {among : Item → Prop}

def Sorted (order : Item → Item → Ordering) (items : List Item) : Prop :=
  items.Pairwise fun first later => order first later ≠ .gt

instance (order : Item → Item → Ordering) (items : List Item) : Decidable (Sorted order items) :=
  inferInstanceAs (Decidable (items.Pairwise fun first later => order first later ≠ .gt))

/-- The order of some elements is consistent: it is the same from both sides, and one after the
other leads no way back. -/
structure Ranked (order : Item → Item → Ordering) (among : Item → Prop) : Prop where
  swap : ∀ first second, among first → among second → order second first = (order first second).swap
  trans : ∀ first second third, among first → among second → among third →
    order first second ≠ .gt → order second third ≠ .gt → order first third ≠ .gt

theorem Ranked.not_lt {first second : Item} (ranked : Ranked order among) (left : among first)
    (right : among second) (above : order first second ≠ .lt) : order second first ≠ .gt := by
  rw [ranked.swap first second left right]
  cases result : order first second with
  | lt => exact absurd result above
  | eq => simp
  | gt => simp

theorem Ranked.of_gt {first second : Item} (ranked : Ranked order among) (left : among first)
    (right : among second) (above : order first second = .gt) : order second first ≠ .gt := by
  rw [ranked.swap first second left right, above]
  simp

theorem Sorted.sublist {fewer items : List Item} (sorted : Sorted order items)
    (inside : fewer.Sublist items) : Sorted order fewer :=
  List.Pairwise.sublist inside sorted

theorem insertBefore_perm (item : Item) (items : List Item) :
    (insertBefore order item items).Perm (item :: items) := by
  induction items with
  | nil => exact .refl _
  | cons first rest ih =>
      rw [insertBefore]
      split
      · exact (ih.cons first).trans (.swap item first rest)
      · exact .refl _

theorem stableSort_perm (order : Item → Item → Ordering) (items : List Item) :
    (stableSort order items).Perm items := by
  induction items with
  | nil => exact .refl _
  | cons item rest ih => exact (insertBefore_perm item _).trans (ih.cons item)

theorem insertBefore_sorted {item : Item} {items : List Item} (ranked : Ranked order among)
    (new : among item) (old : ∀ other ∈ items, among other) (sorted : Sorted order items) :
    Sorted order (insertBefore order item items) := by
  induction items with
  | nil => exact List.pairwise_singleton _ _
  | cons first rest ih =>
      have head := old first List.mem_cons_self
      have tail : ∀ other ∈ rest, among other := fun other member =>
        old other (List.mem_cons_of_mem first member)
      have split := List.pairwise_cons.mp sorted
      rw [insertBefore]
      by_cases before : order first item = .lt
      · rw [if_pos before]
        refine List.pairwise_cons.mpr ⟨?_, ih tail split.2⟩
        intro other member
        rcases List.mem_cons.mp ((insertBefore_perm item rest).mem_iff.mp member) with rfl | later
        · simp [before]
        · exact split.1 other later
      · rw [if_neg before]
        refine List.pairwise_cons.mpr ⟨?_, sorted⟩
        -- The rest comes after the first element, and so after the new one.
        have start := ranked.not_lt head new before
        intro other member
        rcases List.mem_cons.mp member with rfl | later
        · exact start
        · exact ranked.trans item first other new head (tail other later) start
            (split.1 other later)

theorem stableSort_sorted {items : List Item} (ranked : Ranked order among)
    (old : ∀ item ∈ items, among item) : Sorted order (stableSort order items) := by
  induction items with
  | nil => exact List.Pairwise.nil
  | cons item rest ih =>
      have tail : ∀ other ∈ rest, among other := fun other member =>
        old other (List.mem_cons_of_mem item member)
      refine insertBefore_sorted ranked (old item List.mem_cons_self) ?_ (ih tail)
      intro other member
      exact tail other ((stableSort_perm order rest).mem_iff.mp member)

theorem narrow_lt (passes : Nat → Bool) (fuel base size : Nat) (filled : 0 < size) :
    narrow passes fuel base size < base + size := by
  induction fuel generalizing base size with
  | zero => simpa [narrow] using filled
  | succ fuel ih =>
      simp only [narrow]
      split
      · omega
      · split
        · have lower := ih (base + size / 2) (size - size / 2) (by omega)
          omega
        · have lower := ih base (size - size / 2) (by omega)
          omega

/-- Where exactly the elements before `bound` pass, the search ends right at it. -/
theorem narrow_spec {passes : Nat → Bool} {bound : Nat} (fuel base size : Nat)
    (enough : size ≤ fuel + 1)
    (parted : ∀ place, place < base + size → (passes place = true ↔ place < bound))
    (low : base = 0 ∨ base < bound) (high : bound ≤ base + size) :
    let candidate := narrow passes fuel base size
    (candidate = 0 ∨ candidate < bound) ∧ bound ≤ candidate + 1 := by
  induction fuel generalizing base size with
  | zero =>
      simp only [narrow]
      omega
  | succ fuel ih =>
      simp only [narrow]
      by_cases done : size ≤ 1
      · rw [if_pos done]
        omega
      · rw [if_neg done]
        -- The half that is kept has the bound in it or at its end.
        have middle := parted (base + size / 2) (by omega)
        by_cases pass : passes (base + size / 2) = true
        · rw [if_pos pass]
          have below := middle.mp pass
          apply ih
          · omega
          · intro place inside
            exact parted place (by omega)
          · exact .inr below
          · omega
        · rw [if_neg pass]
          have above : ¬ base + size / 2 < bound := fun below => pass (middle.mpr below)
          apply ih
          · omega
          · intro place inside
            exact parted place (by omega)
          · exact low
          · omega

theorem frontLength_le (passes : Item → Bool) (items : List Item) :
    frontLength passes items ≤ items.length := by
  unfold frontLength
  dsimp only
  split
  · exact Nat.zero_le _
  · rename_i elements
    have filled : 0 < items.length := by
      cases items with
      | nil => simp at elements
      | cons first rest => simp
    have inside := narrow_lt (fun index => (items[index]?).any passes) items.length 0 items.length
      filled
    split <;> omega

theorem frontLength_append {passes : Item → Bool} {front back : List Item}
    (pass : ∀ item ∈ front, passes item = true) (fail : ∀ item ∈ back, passes item = false) :
    frontLength passes (front ++ back) = front.length := by
  have parted : ∀ place, ((front ++ back)[place]?).any passes = true ↔ place < front.length := by
    intro place
    by_cases inside : place < front.length
    · simp [List.getElem?_append_left inside, inside, pass]
    · simp only [List.getElem?_append_right (Nat.le_of_not_lt inside), inside, iff_false]
      cases found : back[place - front.length]? with
      | none => simp
      | some item => simp [fail item (List.mem_of_getElem? found)]
  unfold frontLength
  dsimp only
  split
  · rename_i empty
    have neither : front = [] ∧ back = [] := by simpa using empty
    rw [neither.1]
    rfl
  · have found := narrow_spec (front ++ back).length 0 (front ++ back).length (by omega)
      (fun place _ => parted place) (.inl rfl) (by simp)
    dsimp only at found
    have last := parted (narrow (fun index => ((front ++ back)[index]?).any passes)
      (front ++ back).length 0 (front ++ back).length)
    split
    · rename_i pass
      have below := last.mp pass
      omega
    · rename_i stop
      have above : ¬ _ := fun below => stop (last.mpr below)
      omega

theorem insertionPoint_le (order : Item → Item → Ordering) (item : Item) (items : List Item) :
    insertionPoint order item items ≤ items.length :=
  frontLength_le _ _

theorem insertIdx_eq_append (place : Nat) (item : Item) (items : List Item)
    (inside : place ≤ items.length) :
    items.insertIdx place item = items.take place ++ item :: items.drop place := by
  induction items generalizing place with
  | nil =>
      have first : place = 0 := by simpa using inside
      simp [first]
  | cons head rest ih =>
      cases place with
      | zero => simp
      | succ place =>
          have shorter : place ≤ rest.length := by simpa using inside
          simp [ih place shorter]

/-- A new element is in order where it was put, exactly if no element before it comes after it and
no element behind it comes before it. -/
theorem Sorted.insert_iff {item : Item} {front back : List Item}
    (sorted : Sorted order (front ++ back)) :
    Sorted order (front ++ item :: back) ↔
      (∀ other ∈ front, order other item ≠ .gt) ∧ ∀ other ∈ back, order item other ≠ .gt := by
  have parts := List.pairwise_append.mp sorted
  constructor
  · intro placed
    have split := List.pairwise_append.mp placed
    refine ⟨?_, (List.pairwise_cons.mp split.2.1).1⟩
    intro other member
    exact split.2.2 other member item List.mem_cons_self
  · rintro ⟨before, after⟩
    refine List.pairwise_append.mpr ⟨parts.1, List.pairwise_cons.mpr ⟨after, parts.2.1⟩, ?_⟩
    intro first early other member
    rcases List.mem_cons.mp member with rfl | late
    · exact before first early
    · exact parts.2.2 first early other late

theorem insertionPoint_eq {item : Item} {front back : List Item}
    (before : ∀ other ∈ front, order other item ≠ .gt)
    (after : ∀ other ∈ back, order other item = .gt) :
    insertionPoint order item (front ++ back) = front.length := by
  apply frontLength_append
  · intro other member
    simpa using before other member
  · intro other member
    simpa using after other member

theorem Sorted.parted {item : Item} {items : List Item} (ranked : Ranked order among)
    (new : among item) (old : ∀ other ∈ items, among other) (sorted : Sorted order items) :
    ∃ front back, items = front ++ back ∧ (∀ other ∈ front, order other item ≠ .gt) ∧
      ∀ other ∈ back, order other item = .gt := by
  induction items with
  | nil => exact ⟨[], [], rfl, by simp, by simp⟩
  | cons first rest ih =>
      have head := old first List.mem_cons_self
      have tail : ∀ other ∈ rest, among other := fun other member =>
        old other (List.mem_cons_of_mem first member)
      have split := List.pairwise_cons.mp sorted
      by_cases above : order first item = .gt
      · refine ⟨[], first :: rest, rfl, by simp, ?_⟩
        intro other member
        rcases List.mem_cons.mp member with rfl | later
        · exact above
        · cases result : order other item with
          | gt => rfl
          | lt | eq =>
              have way := ranked.trans first other item head (tail other later) new
                (split.1 other later) (by simp [result])
              exact absurd above way
      · obtain ⟨front, back, whole, before, after⟩ := ih tail split.2
        refine ⟨first :: front, back, by rw [whole]; rfl, ?_, after⟩
        intro other member
        rcases List.mem_cons.mp member with rfl | later
        · exact above
        · exact before other later

/-- Elements in order are parted by the place where the search for a new one ends. -/
theorem Sorted.insertionPoint {item : Item} {items : List Item} (ranked : Ranked order among)
    (new : among item) (old : ∀ other ∈ items, among other) (sorted : Sorted order items) :
    (∀ other ∈ items.take (insertionPoint order item items), order other item ≠ .gt) ∧
      ∀ other ∈ items.drop (View.insertionPoint order item items), order item other ≠ .gt := by
  obtain ⟨front, back, rfl, before, after⟩ := sorted.parted ranked new old
  rw [insertionPoint_eq before after, List.take_left, List.drop_left]
  refine ⟨before, ?_⟩
  intro other member
  exact ranked.of_gt (old other (List.mem_append_right front member)) new (after other member)

end LiveList.View
