import LiveList.Proofs.Share.Path
import LiveList.Proofs.Share.Steps
import LiveList.Proofs.Source.Apart
import LiveList.Proofs.Text.Blank

/-!
The virtual names of shared directories. A name that is given is trimmed and checked. A name that is
read off the path is the last part of it as it stands, so that blanks at its ends stay, and a path
without parts is its own name.
-/

namespace LiveList

namespace Path

variable {path front part : List Char} {c : Char}

def parts (path : List Char) : List (List Char) :=
  (path.splitOnP isSeparator).filter (· ≠ [])

@[simp]
theorem parts_nil : parts [] = [] := by simp [parts, List.splitOnP_nil]

/-- A path splits at every separator. -/
theorem parts_append_separator (separator : isSeparator c = true) (front rest : List Char) :
    parts (front ++ c :: rest) = parts front ++ parts rest := by
  rw [parts, List.splitOnP_append_cons front rest separator, List.filter_append]
  rfl

theorem parts_part (some : part ≠ []) (whole : ∀ c ∈ part, isSeparator c = false) :
    parts part = [part] := by
  simp [parts, List.splitOnP_eq_singleton whole, some]

theorem parts_trimEnd (path : List Char) : parts (trimEnd path) = parts path := by
  induction path using List.reverseRecOn with
  | nil => rfl
  | append_singleton front c ih =>
      show parts ((front ++ [c]).rdropWhile isSeparator) = _
      rw [List.rdropWhile_concat]
      split
      · rename_i separator
        rw [parts_append_separator separator, parts_nil, List.append_nil]
        exact ih
      · rfl

/-- What stands after the last separator of a path is its last part, unless it is nothing. -/
theorem parts_lastPart (some : lastPart path ≠ []) :
    ∃ front, parts path = front ++ [lastPart path] := by
  have whole : ∀ c ∈ lastPart path, isSeparator c = false := fun _ => isSeparator_lastPart
  have split : path.rdropWhile (fun c => !isSeparator c) ++ lastPart path = path :=
    List.rdropWhile_append_rtakeWhile
  obtain none | ⟨front, c, before⟩ :=
    List.eq_nil_or_concat (path.rdropWhile fun c => !isSeparator c)
  · rw [none, List.nil_append] at split
    refine ⟨[], ?_⟩
    rw [List.nil_append, ← parts_part some whole, split]
  · have separator : isSeparator c = true := by
      have ends := List.rdropWhile_last_not (fun c => !isSeparator c) path (by simp [before])
      simpa [before] using ends
    refine ⟨parts front, ?_⟩
    rw [before, List.concat_eq_append, List.append_assoc, List.singleton_append] at split
    rw [← parts_part some whole, ← parts_append_separator separator, split]

/-- A path without separators at its end has a last part, unless it is empty. -/
theorem lastPart_trimEnd_eq_nil_iff : lastPart (trimEnd path) = [] ↔ trimEnd path = [] := by
  show (path.rdropWhile isSeparator).rtakeWhile _ = [] ↔ path.rdropWhile isSeparator = []
  rw [List.rtakeWhile_eq_nil_iff]
  constructor
  · intro ends
    by_contra some
    have last := List.rdropWhile_last_not isSeparator path some
    exact ends some (by simpa using last)
  · exact fun none some => absurd none some

def EndsProperly (path : List Char) : Prop := ∃ part ∈ (parts path).getLast?, Text.Snug part

theorem endsProperly_iff :
    EndsProperly path ↔
      lastPart (trimEnd path) ≠ [] ∧ Text.Snug (lastPart (trimEnd path)) := by
  rw [EndsProperly, ← parts_trimEnd]
  by_cases none : lastPart (trimEnd path) = []
  · simp [lastPart_trimEnd_eq_nil_iff.mp none, lastPart]
  · obtain ⟨front, ends⟩ := parts_lastPart none
    simp [ends, none]

end Path

/-- A name as it should be: not empty, without blanks at its ends, and no path. -/
structure ProperName (name : String) : Prop where
  some : name ≠ ""
  snug : Text.Snug name.toList
  single : ∀ c ∈ name.toList, Path.isSeparator c = false

namespace Share

theorem properName_of_checked {name checked : String}
    (success : checkVirtualName name = .ok checked) : ProperName checked := by
  unfold checkVirtualName at success
  dsimp only at success
  split at success
  · cases success
  split at success
  · cases success
  rename_i some single
  rw [← Except.ok.inj success]
  refine ⟨?_, ?_, ?_⟩
  · simpa [← String.toList_inj] using some
  · rw [String.toList_ofList]
    exact Text.snug_trim name.toList
  · simpa using single

theorem properName_default_iff {path : String} (placed : path ≠ "") :
    ProperName (defaultVirtualName path) ↔ Path.EndsProperly path.toList := by
  rw [Path.endsProperly_iff]
  unfold defaultVirtualName
  dsimp only
  split
  · rename_i none
    rw [List.isEmpty_iff] at none
    refine ⟨fun proper => ?_, fun ends => absurd none ends.1⟩
    -- The path is its own name, and there are separators only.
    have separators := List.rdropWhile_eq_nil_iff.mp (Path.lastPart_trimEnd_eq_nil_iff.mp none)
    obtain ⟨c, member⟩ := List.exists_mem_of_ne_nil path.toList (by simpa using placed)
    exact absurd (separators c member) (by simp [proper.single c member])
  · rename_i some
    rw [List.isEmpty_iff] at some
    constructor
    · intro proper
      exact ⟨some, by simpa using proper.snug⟩
    · rintro ⟨_, snug⟩
      refine ⟨?_, ?_, ?_⟩
      · simpa [← String.toList_inj] using some
      · rwa [String.toList_ofList]
      · rw [String.toList_ofList]
        exact fun c => Path.isSeparator_lastPart

structure Orderly (root : ShareRoot) : Prop where
  placed : root.path ≠ ""
  named : ProperName root.virtualName ∨ root.virtualName = defaultVirtualName root.path
  published : root.profiles ≠ []

theorem orderly_run (operations : List ShareOperation) :
    (keeper.after operations).Every Orderly := by
  refine keeper_steps.keeps .start ?_ operations
  intro share sound every operation
  rcases operate_revision sound operation with ⟨path, update, rfl⟩ | revision
  · refine Published.settled_keeps every fun {done} success => ?_
    obtain ⟨root, _, admitted, rfl⟩ := addRoot_ok success
    refine every.add ⟨admitted.placed, ?_, admitted.published⟩
    rcases admitted.named with default | ⟨name, checked⟩
    · exact .inr default
    · exact .inl (properName_of_checked checked)
  · refine revision.every sound every ?_
    intro old new reports edit orderly
    cases edit with
    | update virtualName profiles incoming named published made =>
        subst made
        refine ⟨orderly.placed, ?_, ?_⟩
        · rcases named with kept | ⟨name, checked⟩
          · exact kept ▸ orderly.named
          · exact .inl (properName_of_checked checked)
        · rcases published with kept | some
          · exact kept ▸ orderly.published
          · exact some
    | begin | finish => exact ⟨orderly.placed, orderly.named, orderly.published⟩

/-- Every shared directory is published in some profile. Its name is as it should be, unless it is
the name read off a path that does not end properly. -/
theorem properName_iff (operations : List ShareOperation) {root : ShareRoot}
    (listed : root ∈ (keeper.after operations).items) :
    root.profiles ≠ [] ∧
      (ProperName root.virtualName ↔
        (root.virtualName = defaultVirtualName root.path → Path.EndsProperly root.path.toList)) := by
  have orderly := orderly_run operations root listed
  refine ⟨orderly.published, ?_⟩
  constructor
  · intro proper default
    rw [default] at proper
    exact (properName_default_iff orderly.placed).mp proper
  · intro ends
    rcases orderly.named with proper | default
    · exact proper
    · rw [default]
      exact (properName_default_iff orderly.placed).mpr (ends default)

def blankRoots : List ShareOperation :=
  [.addRoot "/srv/ Music " { profiles := some [1] }, .addRoot "/srv/Films/" { profiles := some [1] }]

theorem blankRoots_films : ProperName "Films" := by
  have listed : ({ token := 2, path := "/srv/Films/", virtualName := "Films", profiles := [1] } :
      ShareRoot) ∈ (keeper.after blankRoots).items := .tail _ (.head _)
  have snug : Text.Snug "Films".toList := by simp [Text.Snug, Text.isBlank]
  exact (properName_iff blankRoots listed).2.mpr fun _ => ⟨"Films".toList, rfl, snug⟩

theorem blankRoots_misnamed :
    ¬ (keeper.after blankRoots).Every fun root =>
      root.profiles ≠ [] ∧ ProperName root.virtualName := by
  intro every
  have proper := (every
    { token := 1, path := "/srv/ Music ", virtualName := " Music ", profiles := [1] } (.head _)).2
  exact absurd (proper.snug.1 ' ' rfl) (by decide)

end Share

end LiveList
