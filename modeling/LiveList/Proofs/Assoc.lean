import LiveList.Assoc

/-!
Association lists without a repeated key: what they hold is what can be looked up, and setting and
erasing keep the keys apart.
-/

namespace LiveList.Assoc

variable {Key Value : Type} [DecidableEq Key]

def keys (entries : List (Key × Value)) : List Key := entries.map (·.1)

omit [DecidableEq Key] in
theorem mem_keys {key : Key} {entries : List (Key × Value)} :
    key ∈ keys entries ↔ ∃ value, (key, value) ∈ entries := by
  simp [keys]

theorem get?_eq_none {key : Key} {entries : List (Key × Value)} :
    get? entries key = none ↔ key ∉ keys entries := by
  induction entries with
  | nil => simp [get?, keys]
  | cons entry rest ih =>
      by_cases here : entry.1 = key
      · simp [get?, keys, here]
      · have other : key ≠ entry.1 := fun same => here same.symm
        simpa [get?, keys, here, other] using ih

theorem contains_iff {key : Key} {entries : List (Key × Value)} :
    contains entries key = true ↔ key ∈ keys entries := by
  rw [contains, Option.isSome_iff_ne_none, ne_eq, get?_eq_none]
  exact Decidable.not_not

theorem mem_of_get? {key : Key} {value : Value} {entries : List (Key × Value)}
    (found : get? entries key = some value) : (key, value) ∈ entries := by
  induction entries with
  | nil => cases found
  | cons entry rest ih =>
      by_cases here : entry.1 = key
      · rw [get?, if_pos here] at found
        cases found
        rw [← here]
        exact List.mem_cons_self
      · rw [get?, if_neg here] at found
        exact List.mem_cons_of_mem _ (ih found)

theorem get?_iff_mem {key : Key} {value : Value} {entries : List (Key × Value)}
    (distinct : (keys entries).Nodup) : get? entries key = some value ↔ (key, value) ∈ entries := by
  constructor
  · exact mem_of_get?
  · intro member
    induction entries with
    | nil => cases member
    | cons entry rest ih =>
        have apart := List.nodup_cons.mp distinct
        rcases List.mem_cons.mp member with rfl | later
        · simp [get?]
        · have other : entry.1 ≠ key := by
            intro same
            exact apart.1 (List.mem_map.mpr ⟨(key, value), later, same.symm⟩)
          rw [get?, if_neg other]
          exact ih apart.2 later

theorem set_same {key : Key} {value : Value} {entries : List (Key × Value)}
    (found : get? entries key = some value) : set key value entries = entries := by
  induction entries with
  | nil => cases found
  | cons entry rest ih =>
      by_cases here : entry.1 = key
      · rw [get?, if_pos here] at found
        rw [set, if_pos here, ← here, ← Option.some.inj found]
      · rw [get?, if_neg here] at found
        rw [set, if_neg here, ih found]

theorem set_absent {key : Key} (value : Value) {entries : List (Key × Value)}
    (absent : key ∉ keys entries) : set key value entries = entries ++ [(key, value)] := by
  induction entries with
  | nil => rfl
  | cons entry rest ih =>
      simp only [keys, List.map_cons, List.mem_cons, not_or] at absent
      rw [set, if_neg (Ne.symm absent.1), ih absent.2]
      rfl

theorem keys_set_present {key : Key} (value : Value) {entries : List (Key × Value)}
    (present : key ∈ keys entries) : keys (set key value entries) = keys entries := by
  induction entries with
  | nil => cases present
  | cons entry rest ih =>
      by_cases here : entry.1 = key
      · simp [set, keys, here]
      · have later : key ∈ keys rest := by
          rcases List.mem_cons.mp present with same | later
          · exact absurd same.symm here
          · exact later
        have kept := ih later
        simp only [keys] at kept ⊢
        simp [set, here, kept]

theorem mem_keys_set {key other : Key} {value : Value} {entries : List (Key × Value)} :
    other ∈ keys (set key value entries) ↔ other = key ∨ other ∈ keys entries := by
  by_cases present : key ∈ keys entries
  · rw [keys_set_present value present]
    constructor
    · exact .inr
    · rintro (rfl | member)
      · exact present
      · exact member
  · rw [set_absent value present]
    simp [keys, or_comm]

theorem nodup_set (key : Key) (value : Value) {entries : List (Key × Value)}
    (distinct : (keys entries).Nodup) : (keys (set key value entries)).Nodup := by
  by_cases present : key ∈ keys entries
  · rwa [keys_set_present value present]
  · rw [set_absent value present]
    simp only [keys, List.map_append, List.map_cons, List.map_nil]
    refine List.nodup_append.mpr ⟨distinct, by simp, ?_⟩
    intro other member last same
    cases List.mem_singleton.mp same
    rintro rfl
    exact present member

theorem nodup_erase (key : Key) {entries : List (Key × Value)}
    (distinct : (keys entries).Nodup) : (keys (erase key entries)).Nodup :=
  distinct.sublist (List.Sublist.map _ List.filter_sublist)

theorem mem_erase {key : Key} {entry : Key × Value} {entries : List (Key × Value)} :
    entry ∈ erase key entries ↔ entry ∈ entries ∧ entry.1 ≠ key := by
  simp [erase]

theorem mem_set {key : Key} {value : Value} {entry : Key × Value} {entries : List (Key × Value)}
    (distinct : (keys entries).Nodup) :
    entry ∈ set key value entries ↔ entry = (key, value) ∨ entry ∈ entries ∧ entry.1 ≠ key := by
  have looked : entry ∈ set key value entries ↔
      get? (set key value entries) entry.1 = some entry.2 :=
    (get?_iff_mem (nodup_set key value distinct)).symm
  rw [looked, get?_set]
  by_cases same : entry.1 = key
  · rw [if_pos same, ← same]
    constructor
    · intro found
      exact .inl (Prod.ext rfl (Option.some.inj found).symm)
    · rintro (here | elsewhere)
      · rw [here]
      · exact absurd rfl elsewhere.2
  · rw [if_neg same, get?_iff_mem distinct]
    constructor
    · intro member
      exact .inr ⟨member, same⟩
    · rintro (here | elsewhere)
      · exact absurd (congrArg (·.1) here) same
      · exact elsewhere.1

/-- Without a word about the keys: what is set is new or was there. -/
theorem of_mem_set {key : Key} {value : Value} {entry : Key × Value} {entries : List (Key × Value)}
    (member : entry ∈ set key value entries) : entry = (key, value) ∨ entry ∈ entries := by
  induction entries with
  | nil => exact .inl (List.mem_singleton.mp member)
  | cons first rest ih =>
      rw [set] at member
      split at member
      · rcases List.mem_cons.mp member with new | old
        · exact .inl new
        · exact .inr (List.mem_cons_of_mem first old)
      · rcases List.mem_cons.mp member with rfl | later
        · exact .inr List.mem_cons_self
        · exact (ih later).imp id (List.mem_cons_of_mem first)

end LiveList.Assoc
