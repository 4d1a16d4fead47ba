import LiveList.Proofs.Share.Path
import LiveList.Search.Basic

/-!
The path of a result is kept in two parts, the name and the path of the directory that holds it. No
part of the path is lost, except for the separators at the end of a directory's path.
-/

namespace LiveList.Search

variable {path name : String} {front rest : List Char}

theorem resultName_toList (path : String) (isDirectory : Bool) :
    ∃ trimmed rest, path.toList = trimmed ++ rest ∧ (∀ c ∈ rest, Path.isSeparator c = true) ∧
      (isDirectory = false → rest = []) ∧
      (resultName path isDirectory).toList = Path.lastPart trimmed := by
  cases isDirectory with
  | false => exact ⟨path.toList, [], by simp, by simp, fun _ => rfl, String.toList_ofList⟩
  | true =>
      obtain ⟨rest, split, separators⟩ := Path.exists_trimEnd_append path.toList
      exact ⟨Path.trimEnd path.toList, rest, split, separators, nofun, String.toList_ofList⟩

/-- Where there is no name, the whole path is the path of the directory. -/
theorem parentPath_unnamed (path : String) : parentPath path "" = path := by
  simp [parentPath, Path.lastIndexOf?_nil]

theorem parentPath_named (split : path.toList = front ++ (name.toList ++ rest))
    (some : name.toList ≠ []) (whole : ∀ c ∈ name.toList, Path.isSeparator c = false)
    (separators : ∀ c ∈ rest, Path.isSeparator c = true) :
    parentPath path name = String.ofList front := by
  rw [parentPath, split, Path.lastIndexOf?_last some whole separators]
  simp

/-- The path of the directory, the name and what is left over are the whole path. Nothing of a
file's path is left over, and nothing but separators of a directory's; the name is a single part,
and the path of the directory ends before it. -/
theorem resultPath_split (path : String) (isDirectory : Bool) :
    let name := resultName path isDirectory
    let parent := parentPath path name
    (∃ rest, path = parent ++ name ++ rest ∧ (isDirectory = false → rest = "") ∧
        ∀ c ∈ rest.toList, Path.isSeparator c = true) ∧
      (∀ c ∈ name.toList, Path.isSeparator c = false) ∧
      (parent = "" ∨ ∃ c ∈ parent.toList.getLast?, Path.isSeparator c = true) := by
  intro name parent
  obtain ⟨trimmed, rest, split, separators, file, named⟩ := resultName_toList path isDirectory
  obtain ⟨front, parts, ends⟩ := Path.exists_append_lastPart trimmed
  rw [← named] at parts
  have whole : ∀ c ∈ name.toList, Path.isSeparator c = false := by
    intro c member
    rw [named] at member
    exact Path.isSeparator_lastPart member
  have split : path.toList = front ++ (name.toList ++ rest) := by
    rw [split, parts, List.append_assoc]
  -- Without a name, what is left over goes to the directory, and there is nothing after it.
  by_cases unnamed : name = ""
  · have all : parent = path := by
      show parentPath path name = path
      rw [unnamed, parentPath_unnamed]
    refine ⟨⟨"", ?_, fun _ => rfl, by simp⟩, whole, ?_⟩
    · rw [all, unnamed, String.append_empty, String.append_empty]
    · rw [all]
      cases last : path.toList.getLast? with
      | none => simpa using last
      | some c =>
          rw [split, unnamed, String.toList_empty, List.nil_append, List.getLast?_append,
            Option.or_eq_some_iff] at last
          rcases last with after | ⟨_, before⟩
          · exact .inr ⟨c, rfl, separators c (List.mem_of_getLast? after)⟩
          · exact .inr ⟨c, rfl, ends c before⟩
  · have some : name.toList ≠ [] := by
      simpa using unnamed
    have all : parent = String.ofList front := parentPath_named split some whole separators
    refine ⟨⟨String.ofList rest, ?_, ?_, ?_⟩, whole, ?_⟩
    · rw [← String.toList_inj, all]
      simpa using split
    · intro isFile
      rw [file isFile]
    · rwa [String.toList_ofList]
    · rw [all, String.toList_ofList]
      cases last : front.getLast? with
      | none => simp [List.getLast?_eq_none_iff.mp last]
      | some c => exact .inr ⟨c, rfl, ends c last⟩

/-- A name that occurs in the path several times is found where it stands last. -/
example : parentPath "/al/album/al//" (resultName "/al/album/al//" true) = "/al/album/" := by
  decide

end LiveList.Search
