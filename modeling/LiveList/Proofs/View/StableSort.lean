import LiveList.Proofs.View.Order
import Mathlib.Data.List.Basic

/-!
Stable sorting as a relation. Where the order of some elements is consistent there is exactly one
way to sort them stably, so what is sorted bit by bit is what is sorted at once.
-/

namespace LiveList.View

variable {Item : Type} {order : Item → Item → Ordering} {among : Item → Prop}
  {items more result : List Item} {item first second third : Item}

def peers (order : Item → Item → Ordering) (item : Item) (items : List Item) : List Item :=
  items.filter fun other => order item other = .eq

/-- A stable sort: the same elements, in order, and those in one place of the order as they stood. -/
structure StablySorts (order : Item → Item → Ordering) (items result : List Item) : Prop where
  perm : result.Perm items
  sorted : Sorted order result
  stable : ∀ item ∈ items, peers order item result = peers order item items

theorem peers_append (order : Item → Item → Ordering) (item : Item) (front back : List Item) :
    peers order item (front ++ back) = peers order item front ++ peers order item back :=
  List.filter_append front back

theorem peers_cons (order : Item → Item → Ordering) (item head : Item) (rest : List Item) :
    peers order item (head :: rest) =
      if order item head = .eq then head :: peers order item rest else peers order item rest := by
  simp [peers, List.filter_cons]

theorem Ranked.refl (ranked : Ranked order among) (inside : among item) : order item item = .eq := by
  have swap := ranked.swap item item inside inside
  cases result : order item item with
  | eq => rfl
  | lt | gt => simp [result] at swap

theorem Ranked.antisymm (ranked : Ranked order among) (left : among first) (right : among second)
    (forth : order first second ≠ .gt) (back : order second first ≠ .gt) :
    order first second = .eq := by
  rw [ranked.swap first second left right] at back
  cases result : order first second with
  | eq => rfl
  | lt => simp [result] at back
  | gt => exact absurd result forth

/-- Elements in one place of the order compare alike with all others. -/
theorem Ranked.same (ranked : Ranked order among) (one : among first) (two : among second)
    (other : among third) (alike : order first second = .eq) :
    order first third = order second third := by
  have alike' : order second first = .eq := by rw [ranked.swap first second one two, alike]; rfl
  have forth : order first third ≠ .gt → order second third ≠ .gt :=
    ranked.trans second first third two one other (by simp [alike'])
  have back : order second third ≠ .gt → order first third ≠ .gt :=
    ranked.trans first second third one two other (by simp [alike])
  have forth' : order third first ≠ .gt → order third second ≠ .gt := fun below =>
    ranked.trans third first second other one two below (by simp [alike])
  have back' : order third second ≠ .gt → order third first ≠ .gt := fun below =>
    ranked.trans third second first other two one below (by simp [alike'])
  rw [ranked.swap first third one other, ranked.swap second third two other] at forth' back'
  cases left : order first third <;> cases right : order second third <;> simp_all

theorem Ranked.head_le {head : Item} {rest : List Item} (ranked : Ranked order among)
    (old : ∀ other ∈ head :: rest, among other) (sorted : Sorted order (head :: rest))
    (member : item ∈ head :: rest) : order head item ≠ .gt := by
  rcases List.mem_cons.mp member with rfl | later
  · simp [ranked.refl (old item member)]
  · exact (List.pairwise_cons.mp sorted).1 item later

/-- Two lists in order are the same, if the elements in each place of the order are. -/
theorem Ranked.eq_of_peers {left right : List Item} (ranked : Ranked order among)
    (old : ∀ item ∈ left, among item) (perm : left.Perm right) (ordered : Sorted order left)
    (sorted : Sorted order right)
    (alike : ∀ item ∈ left, peers order item left = peers order item right) : left = right := by
  induction left generalizing right with
  | nil => exact perm.nil_eq
  | cons head rest ih =>
      cases right with
      | nil => exact perm.eq_nil
      | cons other tail =>
          have inside : ∀ item ∈ other :: tail, among item := fun item member =>
            old item (perm.mem_iff.mpr member)
          have forth := ranked.head_le old ordered (perm.mem_iff.mpr List.mem_cons_self)
          have back := ranked.head_le inside sorted (perm.mem_iff.mp List.mem_cons_self)
          have same := ranked.antisymm (old head List.mem_cons_self)
            (inside other List.mem_cons_self) forth back
          -- The heads are in one place of the order, and the first of that place in both lists.
          have both := alike head List.mem_cons_self
          rw [peers_cons, if_pos (ranked.refl (old head List.mem_cons_self)), peers_cons,
            if_pos same] at both
          obtain ⟨rfl, -⟩ := List.cons.inj both
          congr 1
          refine ih (fun item member => old item (List.mem_cons_of_mem head member))
            ((List.perm_cons head).mp perm) (List.pairwise_cons.mp ordered).2
            (List.pairwise_cons.mp sorted).2 fun item member => ?_
          have whole := alike item (List.mem_cons_of_mem head member)
          rw [peers_cons, peers_cons] at whole
          split at whole
          · exact (List.cons.inj whole).2
          · exact whole

theorem insertBefore_peers (ranked : Ranked order among) (asked : among first) (new : among item)
    (old : ∀ other ∈ items, among other) :
    peers order first (insertBefore order item items) = peers order first (item :: items) := by
  induction items with
  | nil => rfl
  | cons head rest ih =>
      have tail : ∀ other ∈ rest, among other := fun other member =>
        old other (List.mem_cons_of_mem head member)
      rw [insertBefore]
      by_cases before : order head item = .lt
      · rw [if_pos before, peers_cons, ih tail, peers_cons, peers_cons, peers_cons]
        by_cases passed : order first head = .eq
        · -- The new element comes after one in the place that is asked for, so it is not there.
          have apart : order first item ≠ .eq := by
            rw [ranked.same asked (old head List.mem_cons_self) new passed, before]
            simp
          simp only [if_neg apart]
        · simp only [if_neg passed]
      · rw [if_neg before]

theorem stableSort_peers (ranked : Ranked order among) (asked : among item)
    (old : ∀ other ∈ items, among other) :
    peers order item (stableSort order items) = peers order item items := by
  induction items with
  | nil => rfl
  | cons head rest ih =>
      have tail : ∀ other ∈ rest, among other := fun other member =>
        old other (List.mem_cons_of_mem head member)
      have inside : ∀ other ∈ stableSort order rest, among other := fun other member =>
        tail other ((stableSort_perm order rest).mem_iff.mp member)
      have placed := insertBefore_peers ranked asked (old head List.mem_cons_self) inside
      rw [peers_cons, ih tail, ← peers_cons] at placed
      exact placed

/-- There is one stable sort. -/
theorem stablySorts_iff (ranked : Ranked order among) (old : ∀ item ∈ items, among item) :
    StablySorts order items result ↔ result = stableSort order items := by
  have sorts : StablySorts order items (stableSort order items) :=
    ⟨stableSort_perm order items, stableSort_sorted ranked old,
      fun item member => stableSort_peers ranked (old item member) old⟩
  constructor
  · intro found
    have same : ∀ item ∈ result, item ∈ items := fun item => found.perm.mem_iff.mp
    exact ranked.eq_of_peers (fun item member => old item (same item member))
      (found.perm.trans sorts.perm.symm) found.sorted sorts.sorted fun item member =>
        (found.stable item (same item member)).trans (sorts.stable item (same item member)).symm
  · rintro rfl
    exact sorts

/-- What is sorted already may be sorted again with more. -/
theorem stableSort_append (ranked : Ranked order among) (old : ∀ item ∈ items, among item)
    (new : ∀ item ∈ more, among item) :
    stableSort order (stableSort order items ++ more) = stableSort order (items ++ more) := by
  have all : ∀ item ∈ items ++ more, among item := fun item member =>
    (List.mem_append.mp member).elim (old item) (new item)
  have perm : (stableSort order items ++ more).Perm (items ++ more) :=
    (stableSort_perm order items).append_right more
  have within : ∀ item ∈ stableSort order items ++ more, among item := fun item member =>
    all item (perm.mem_iff.mp member)
  refine (stablySorts_iff ranked all).mp ⟨(stableSort_perm _ _).trans perm,
    stableSort_sorted ranked within, fun item member => ?_⟩
  have asked := all item member
  rw [stableSort_peers ranked asked within, peers_append, stableSort_peers ranked asked old,
    ← peers_append]

/-- A new element behind all that do not come after it is where a stable sort puts the last one. -/
theorem stablySorts_insert {front back : List Item} (ranked : Ranked order among)
    (new : among item) (old : ∀ other ∈ front ++ back, among other)
    (sorted : Sorted order (front ++ back)) (before : ∀ other ∈ front, order other item ≠ .gt)
    (after : ∀ other ∈ back, order other item = .gt) :
    StablySorts order (front ++ back ++ [item]) (front ++ item :: back) := by
  have behind (other : Item) (member : other ∈ back) : order item other = .lt := by
    rw [ranked.swap other item (old other (List.mem_append_right front member)) new,
      after other member]
    rfl
  refine ⟨?_, sorted.insert_iff.mpr ⟨before, fun other member => by simp [behind other member]⟩,
    fun asked member => ?_⟩
  · rw [List.append_assoc]
    exact (List.perm_append_singleton item back).symm.append_left front
  · have inside : among asked := by
      rcases List.mem_append.mp member with there | last
      · exact old asked there
      · rwa [List.mem_singleton.mp last]
    rw [peers_append, peers_cons, peers_append, peers_append, peers_cons]
    by_cases peer : order asked item = .eq
    · -- Nothing behind the new element is in its place.
      have none : peers order asked back = [] := by
        refine List.filter_eq_nil_iff.mpr fun other there => ?_
        have compared := ranked.same inside new (old other (List.mem_append_right front there)) peer
        simp [compared, behind other there]
      rw [if_pos peer, if_pos peer, none, List.append_nil]
      rfl
    · rw [if_neg peer, if_neg peer]
      exact (List.append_nil _).symm

end LiveList.View
