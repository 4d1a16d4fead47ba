import LiveList.Proofs.Assoc
import LiveList.Proofs.View.Order
import LiveList.View.Flush

/-!
How a view represents what it knows: each known key has one arrival number and each arrival number
one item, the rows in the view are known and have different keys, and at most one change waits for
each key. Every operation on rows and changes keeps this, whatever is reported to the view.
-/

namespace LiveList

variable {Ref : Type}

namespace Rows

def known (rows : Rows Ref) : List Ref := rows.items.map (·.2)

/-- The index leads from each known key to the one item with that key. -/
structure Indexed (key : Ref → Nat) (rows : Rows Ref) : Prop where
  arrivals : (Assoc.keys rows.items).Nodup
  early : ∀ arrival ∈ Assoc.keys rows.items, arrival < rows.nextArrival
  once : (Assoc.keys rows.index).Nodup
  index : ∀ k arrival, Assoc.get? rows.index k = some arrival ↔
    ∃ item, (arrival, item) ∈ rows.items ∧ key item = k

/-- The rows in the view have different keys, which are the matching keys. -/
structure Keyed (key : Ref → Nat) (rows : Rows Ref) : Prop where
  distinct : (rows.matching.map key).Nodup
  keys : ∀ k, k ∈ rows.matchingKeys ↔ k ∈ rows.matching.map key

structure Valid (key : Ref → Nat) (rows : Rows Ref) : Prop extends
    Indexed key rows, Keyed key rows where
  inside : ∀ item ∈ rows.matching, key item ∈ rows.known.map key

variable {key : Ref → Nat} {rows : Rows Ref} {k arrival : Nat} {item other : Ref}

theorem mem_known : item ∈ rows.known ↔ ∃ arrival, (arrival, item) ∈ rows.items := by
  simp [known]

theorem Indexed.start : ({} : Rows Ref).Indexed key where
  arrivals := List.nodup_nil
  early := by simp [Assoc.keys]
  once := List.nodup_nil
  index := by simp [Assoc.get?]

theorem Valid.start : ({} : Rows Ref).Valid key where
  toIndexed := Indexed.start
  distinct := List.nodup_nil
  keys := by simp
  inside := by simp

theorem Indexed.index_eq_none (indexed : rows.Indexed key) :
    Assoc.get? rows.index k = none ↔ k ∉ rows.known.map key := by
  constructor
  · intro absent present
    obtain ⟨item, member, rfl⟩ := List.mem_map.mp present
    obtain ⟨arrival, entry⟩ := mem_known.mp member
    have found := (indexed.index (key item) arrival).mpr ⟨item, entry, rfl⟩
    rw [absent] at found
    cases found
  · intro absent
    cases found : Assoc.get? rows.index k with
    | none => rfl
    | some arrival =>
        obtain ⟨item, entry, same⟩ := (indexed.index k arrival).mp found
        exact absurd (List.mem_map.mpr ⟨item, mem_known.mpr ⟨arrival, entry⟩, same⟩) absent

theorem Indexed.keyed (indexed : rows.Indexed key)
    (found : Assoc.get? rows.index k = some arrival) (entry : (arrival, item) ∈ rows.items) :
    key item = k := by
  obtain ⟨first, left, same⟩ := (indexed.index k arrival).mp found
  have one := (Assoc.get?_iff_mem indexed.arrivals).mpr entry
  rw [(Assoc.get?_iff_mem indexed.arrivals).mpr left] at one
  rw [← Option.some.inj one]
  exact same

theorem Indexed.known_distinct (indexed : rows.Indexed key) : (rows.known.map key).Nodup := by
  rw [known, List.map_map, List.nodup_iff_pairwise_ne, List.pairwise_map]
  have arrivals := List.pairwise_map.mp (List.nodup_iff_pairwise_ne.mp indexed.arrivals)
  refine List.Pairwise.imp_of_mem ?_ arrivals
  intro first second left right apart same
  have one := (indexed.index (key second.2) first.1).mpr ⟨first.2, left, same⟩
  have two := (indexed.index (key second.2) second.1).mpr ⟨second.2, right, rfl⟩
  exact apart (Option.some.inj (one.symm.trans two))

theorem Indexed.insert (indexed : rows.Indexed key) (item : Ref) :
    (rows.insert (key item) item).2.Indexed key := by
  unfold Rows.insert
  split
  · exact indexed
  · rename_i absent
    rw [Assoc.contains_iff] at absent
    have fresh : rows.nextArrival ∉ Assoc.keys rows.items := by
      intro member
      exact Nat.lt_irrefl _ (indexed.early _ member)
    -- Arrival numbers only grow, so the next one is free; the key is free as it is not in the index.
    have unknown : key item ∉ rows.known.map key :=
      indexed.index_eq_none.mp (Assoc.get?_eq_none.mpr absent)
    constructor
    · simp only [Assoc.keys, List.map_append, List.map_cons, List.map_nil]
      refine List.nodup_append.mpr ⟨indexed.arrivals, by simp, ?_⟩
      intro arrival member last same
      rw [List.mem_singleton.mp same]
      rintro rfl
      exact fresh member
    · intro arrival member
      simp only [Assoc.keys, List.map_append, List.map_cons, List.map_nil, List.mem_append,
        List.mem_singleton] at member
      rcases member with old | new
      · exact Nat.lt_succ_of_lt (indexed.early arrival old)
      · exact new ▸ Nat.lt_succ_self _
    · exact Assoc.nodup_set _ _ indexed.once
    · intro k arrival
      simp only [Assoc.get?_set, List.mem_append, List.mem_singleton]
      by_cases here : k = key item
      · rw [if_pos here, here]
        constructor
        · intro found
          exact ⟨item, .inr (by rw [← Option.some.inj found]), rfl⟩
        · rintro ⟨other, old | new, same⟩
          · have member := mem_known.mpr ⟨arrival, old⟩
            exact absurd (List.mem_map.mpr ⟨other, member, same⟩) unknown
          · rw [(Prod.mk.inj new).1]
      · rw [if_neg here, indexed.index]
        constructor
        · rintro ⟨other, old, same⟩
          exact ⟨other, .inl old, same⟩
        · rintro ⟨other, old | new, same⟩
          · exact ⟨other, old, same⟩
          · exact absurd ((Prod.mk.inj new).2 ▸ same.symm) here

theorem Indexed.known_insert (indexed : rows.Indexed key) (item : Ref) :
    (rows.insert (key item) item).2.known =
      if key item ∈ rows.known.map key then rows.known else rows.known ++ [item] := by
  by_cases present : key item ∈ rows.known.map key
  · have found : Assoc.contains rows.index (key item) = true := by
      rw [Assoc.contains, Option.isSome_iff_ne_none]
      intro absent
      exact indexed.index_eq_none.mp absent present
    simp [Rows.insert, found, present]
  · have missing : Assoc.contains rows.index (key item) = false := by
      rw [Assoc.contains, indexed.index_eq_none.mpr present]
      rfl
    rw [if_neg present]
    simp [Rows.insert, missing, known]

theorem insert_added (indexed : rows.Indexed key) (item : Ref) :
    (rows.insert (key item) item).1 = true ↔ key item ∉ rows.known.map key := by
  rw [← indexed.index_eq_none]
  unfold Rows.insert Assoc.contains
  cases Assoc.get? rows.index (key item) <;> simp

theorem Indexed.forget (indexed : rows.Indexed key)
    (found : Assoc.get? rows.index k = some arrival) :
    { rows with
      index := Assoc.erase k rows.index
      items := Assoc.erase arrival rows.items }.Indexed key where
  arrivals := Assoc.nodup_erase _ indexed.arrivals
  early := by
    intro other member
    obtain ⟨item, entry⟩ := Assoc.mem_keys.mp member
    exact indexed.early other (Assoc.mem_keys.mpr ⟨item, (Assoc.mem_erase.mp entry).1⟩)
  once := Assoc.nodup_erase _ indexed.once
  index := by
    intro other place
    simp only [Assoc.get?_erase, Assoc.mem_erase]
    by_cases here : other = k
    · rw [if_pos here]
      constructor
      · intro impossible
        cases impossible
      -- The only item with the key had the arrival number that was erased.
      · rintro ⟨item, ⟨entry, elsewhere⟩, same⟩
        have again := (indexed.index k place).mpr ⟨item, entry, same.trans here⟩
        exact absurd (Option.some.inj (again.symm.trans found)) elsewhere
    · rw [if_neg here, indexed.index]
      constructor
      · rintro ⟨item, entry, same⟩
        refine ⟨item, ⟨entry, ?_⟩, same⟩
        rintro rfl
        exact here (same.symm.trans (indexed.keyed found entry))
      · rintro ⟨item, ⟨entry, _⟩, same⟩
        exact ⟨item, entry, same⟩

theorem Indexed.mem_known_forget (indexed : rows.Indexed key)
    (found : Assoc.get? rows.index k = some arrival) :
    item ∈ known { rows with
      index := Assoc.erase k rows.index
      items := Assoc.erase arrival rows.items } ↔ item ∈ rows.known ∧ key item ≠ k := by
  simp only [mem_known, Assoc.mem_erase]
  constructor
  · rintro ⟨place, entry, elsewhere⟩
    refine ⟨⟨place, entry⟩, ?_⟩
    intro same
    have again := (indexed.index k place).mpr ⟨item, entry, same⟩
    exact elsewhere (Option.some.inj (again.symm.trans found))
  · rintro ⟨⟨place, entry⟩, different⟩
    refine ⟨place, entry, ?_⟩
    rintro rfl
    exact different (indexed.keyed found entry)

theorem Indexed.store (indexed : rows.Indexed key)
    (found : Assoc.get? rows.index (key item) = some arrival) :
    { rows with items := Assoc.set arrival item rows.items }.Indexed key where
  arrivals := Assoc.nodup_set _ _ indexed.arrivals
  early := by
    intro other member
    rcases Assoc.mem_keys_set.mp member with rfl | old
    · obtain ⟨first, entry, _⟩ := (indexed.index (key item) _).mp found
      exact indexed.early _ (Assoc.mem_keys.mpr ⟨first, entry⟩)
    · exact indexed.early other old
  once := indexed.once
  index := by
    intro k place
    simp only [indexed.index, Assoc.mem_set indexed.arrivals]
    constructor
    · rintro ⟨other, entry, same⟩
      -- At the arrival number of the key the older item has given way to the newer one.
      by_cases here : place = arrival
      · refine ⟨item, .inl (by rw [here]), ?_⟩
        rw [← same]
        exact (indexed.keyed found (here ▸ entry)).symm
      · exact ⟨other, .inr ⟨entry, here⟩, same⟩
    · rintro ⟨other, new | ⟨entry, _⟩, same⟩
      · obtain ⟨rfl, rfl⟩ := Prod.mk.inj new
        obtain ⟨first, entry, keyed⟩ := (indexed.index _ _).mp found
        exact ⟨first, entry, keyed.trans same⟩
      · exact ⟨other, entry, same⟩

theorem Indexed.mem_known_store (indexed : rows.Indexed key)
    (found : Assoc.get? rows.index (key item) = some arrival) :
    other ∈ known { rows with items := Assoc.set arrival item rows.items } ↔
      other = item ∨ other ∈ rows.known ∧ key other ≠ key item := by
  simp only [mem_known, Assoc.mem_set indexed.arrivals]
  constructor
  · rintro ⟨place, new | ⟨entry, elsewhere⟩⟩
    · exact .inl (Prod.mk.inj new).2
    · refine .inr ⟨⟨place, entry⟩, ?_⟩
      intro same
      have again := (indexed.index (key item) place).mpr ⟨other, entry, same⟩
      exact elsewhere (Option.some.inj (again.symm.trans found))
  · rintro (rfl | ⟨⟨place, entry⟩, different⟩)
    · exact ⟨arrival, .inl rfl⟩
    · refine ⟨place, .inr ⟨entry, ?_⟩⟩
      rintro rfl
      exact different (indexed.keyed found entry)

theorem clearItems_indexed (key : Ref → Nat) (rows : Rows Ref) : rows.clearItems.Indexed key where
  arrivals := List.nodup_nil
  early := by simp [Rows.clearItems, Assoc.keys]
  once := List.nodup_nil
  index := by simp [Rows.clearItems, Assoc.get?]

theorem Indexed.insertAll {handler : Handler Ref} (indexed : rows.Indexed handler.key)
    (items : List Ref) : (rows.insertAll handler items).Indexed handler.key := by
  unfold Rows.insertAll
  induction items generalizing rows with
  | nil => exact indexed
  | cons item rest ih => exact ih (indexed.insert item)

/-- Items with different keys, none of them known, are all taken in. -/
theorem Indexed.known_insertAll {handler : Handler Ref} (indexed : rows.Indexed handler.key)
    (items : List Ref) (distinct : ((rows.known ++ items).map handler.key).Nodup) :
    (rows.insertAll handler items).known = rows.known ++ items := by
  induction items generalizing rows with
  | nil => simp [Rows.insertAll]
  | cons item rest ih =>
      have unknown : handler.key item ∉ rows.known.map handler.key := by
        rw [List.map_append, List.map_cons] at distinct
        intro member
        exact (List.nodup_append.mp distinct).2.2 _ member _ List.mem_cons_self rfl
      have taken := indexed.known_insert item
      rw [if_neg unknown] at taken
      have later := ih (indexed.insert item) (by rwa [taken, List.append_assoc])
      rw [taken, List.append_assoc] at later
      exact later

/-- The rows after filtering anew are known, whatever they were before. -/
theorem Indexed.refilter {handler : Handler Ref} (indexed : rows.Indexed handler.key)
    (filters : List Filter) : (rows.refilter handler filters).Valid handler.key where
  toIndexed := ⟨indexed.arrivals, indexed.early, indexed.once, indexed.index⟩
  distinct := indexed.known_distinct.sublist (List.Sublist.map _ List.filter_sublist)
  keys _ := Iff.rfl
  inside := by
    intro item member
    exact List.mem_map.mpr ⟨item, (List.mem_filter.mp member).1, rfl⟩

end Rows

end LiveList
