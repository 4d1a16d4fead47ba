import LiveList.Entry.Basic
import LiveList.Proofs.View.Sound
import Mathlib.Data.List.Nodup

/-!
The records that a view keeps twice. The items and the index of their keys, the rows and their keys,
and the queue of waiting changes and its order are changed by hand at every operation; whatever
happens to a view, they say the same.
-/

namespace LiveList

variable {Ref : Type}

/-- The records of a view, each against the one that it repeats. -/
structure ListView.Agreeing (key : Ref → Nat) (view : ListView Ref) : Prop where
  /-- The index leads from the key of every item to its arrival number, and from no other key. -/
  index : ∀ k arrival, (k, arrival) ∈ view.rows.index ↔
    ∃ item, (arrival, item) ∈ view.rows.items ∧ key item = k
  indexKeys : (view.rows.index.map (·.1)).Nodup
  indexArrivals : (view.rows.index.map (·.2)).Nodup
  early : ∀ arrival ∈ view.rows.index.map (·.2), arrival < view.rows.nextArrival
  itemKeys : (view.rows.items.map fun entry => key entry.2).Nodup
  itemArrivals : (view.rows.items.map (·.1)).Nodup
  rows : (view.rows.matching.map key).Nodup
  rowKeys : ∀ k, k ∈ view.rows.matchingKeys ↔ k ∈ view.rows.matching.map key
  known : ∀ k ∈ view.rows.matching.map key, k ∈ view.rows.index.map (·.1)
  order : view.changes.order.Nodup
  taskKeys : (view.changes.tasks.map (·.1)).Nodup
  tasks : ∀ k, k ∈ view.changes.order ↔ k ∈ view.changes.tasks.map (·.1)

namespace Rows.Indexed

variable {key : Ref → Nat} {rows : Rows Ref}

theorem mem_index (indexed : rows.Indexed key) (k arrival : Nat) :
    (k, arrival) ∈ rows.index ↔ ∃ item, (arrival, item) ∈ rows.items ∧ key item = k := by
  rw [← indexed.index, Assoc.get?_iff_mem indexed.once]

/-- Two keys with one arrival number would be the keys of one item. -/
theorem index_arrivals (indexed : rows.Indexed key) : (rows.index.map (·.2)).Nodup := by
  refine List.Nodup.map_on ?_ (List.Nodup.of_map _ indexed.once)
  rintro ⟨first, arrival⟩ left ⟨second, _⟩ right rfl
  obtain ⟨item, entry, rfl⟩ := (indexed.mem_index first arrival).mp left
  obtain ⟨other, again, rfl⟩ := (indexed.mem_index second arrival).mp right
  rw [← Assoc.get?_iff_mem indexed.arrivals] at entry again
  rw [entry] at again
  cases again
  rfl

theorem index_early (indexed : rows.Indexed key) :
    ∀ arrival ∈ rows.index.map (·.2), arrival < rows.nextArrival := by
  intro arrival member
  obtain ⟨⟨k, _⟩, pair, rfl⟩ := List.mem_map.mp member
  obtain ⟨item, entry, _⟩ := (indexed.mem_index k _).mp pair
  exact indexed.early _ (Assoc.mem_keys.mpr ⟨item, entry⟩)

theorem index_known (indexed : rows.Indexed key) {k : Nat} (known : k ∈ rows.known.map key) :
    k ∈ rows.index.map (·.1) := by
  obtain ⟨item, member, rfl⟩ := List.mem_map.mp known
  obtain ⟨arrival, entry⟩ := mem_known.mp member
  exact List.mem_map.mpr ⟨_, (indexed.mem_index _ arrival).mpr ⟨item, entry, rfl⟩, rfl⟩

end Rows.Indexed

theorem ListView.Sound.agreeing {key : Ref → Nat} {view : ListView Ref} (sound : view.Sound key) :
    view.Agreeing key where
  index := sound.rows.mem_index
  indexKeys := sound.rows.once
  indexArrivals := sound.rows.index_arrivals
  early := sound.rows.index_early
  itemKeys := by
    have distinct := sound.rows.known_distinct
    rwa [Rows.known, List.map_map] at distinct
  itemArrivals := sound.rows.arrivals
  rows := sound.rows.distinct
  rowKeys := sound.rows.keys
  known := by
    intro k member
    obtain ⟨item, shown, rfl⟩ := List.mem_map.mp member
    exact sound.rows.index_known (sound.rows.inside item shown)
  order := sound.changes.distinct
  taskKeys := by
    have distinct := sound.changes.distinct
    rwa [sound.changes.order] at distinct
  tasks k := by
    rw [sound.changes.order]
    rfl

/-- After any run of a view, with reports in any order and of any items, all its records agree. -/
theorem records_agree (key : Ref → Nat) (occasions : List (Occasion Ref))
    (keyed : ∀ occasion ∈ occasions, occasion.handler.key = key) :
    (({} : ListView Ref).live occasions).view.Agreeing key :=
  (ListView.Sound.start.live keyed).agreeing

def Entry.sampleReports : List (Occasion Nat) :=
  let handler := Entry.handler.comap fun ref => { id := ref % 10, tag := ref }
  let on (event : ViewEvent Nat) : Occasion Nat := ⟨handler, [1, 2, 12], event⟩
  [on (.acted (.configure { sortProperty := some 2, maxCount := some 2 })),
    on (.heard .add 3 []), on (.heard .add 13 []), on (.heard .remove 7 []),
    on (.heardAll [1, 5] [2]), on (.heard .remove 2 []), on (.heard .add 12 []),
    on (.acted (.command .flush)),
    on (.acted (.command .newFilter)), on (.acted (.setFilter 1 none)),
    on (.acted (.command .reload)), on (.heard .update 3 [2]), on (.heard .add 3 [])]

theorem sampleReports_agree :
    (∀ occasion ∈ Entry.sampleReports, occasion.handler.key = (· % 10)) ∧
      (({} : ListView Nat).live Entry.sampleReports).view.Agreeing (· % 10) := by
  have keyed : ∀ occasion ∈ Entry.sampleReports, occasion.handler.key = (· % 10) := by
    simp [Entry.sampleReports]
    rfl
  exact ⟨keyed, records_agree _ _ keyed⟩

end LiveList
