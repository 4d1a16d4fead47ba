/-!
Logs taken apart at one of their entries, when more was written since.
-/

namespace LiveList.Log

variable {Entry : Type} {log told past rest : List Entry} {first entry : Entry}

/-- An entry that is not among the last ones of a longer log is the one before them, or it is an
entry of the log as it was. -/
theorem of_append_cons (split : log ++ first :: told = past ++ entry :: rest)
    (apart : entry ∉ told) :
    (log = past ∧ first = entry ∧ told = rest) ∨
      ∃ since, log = past ++ entry :: since ∧ rest = since ++ first :: told := by
  rcases List.append_eq_append_iff.mp split with ⟨more, longer, tail⟩ | ⟨more, old, tail⟩
  · cases more with
    | nil =>
        obtain ⟨rfl, rfl⟩ := List.cons.inj tail
        exact .inl ⟨by simpa using longer.symm, rfl, rfl⟩
    | cons other more =>
        obtain ⟨_, rfl⟩ := List.cons.inj tail
        simp at apart
  · cases more with
    | nil =>
        obtain ⟨rfl, rfl⟩ := List.cons.inj tail
        exact .inl ⟨by simpa using old, rfl, rfl⟩
    | cons other more =>
        obtain ⟨rfl, rfl⟩ := List.cons.inj tail
        exact .inr ⟨more, old, rfl⟩

/-- An entry that is not among the last ones of a longer log is an entry of the log as it was. -/
theorem of_append (split : log ++ told = past ++ entry :: rest) (apart : entry ∉ told) :
    ∃ since, log = past ++ entry :: since ∧ rest = since ++ told := by
  cases told with
  | nil => exact ⟨rest, by simpa using split, by simp⟩
  | cons first told =>
      rw [List.mem_cons, not_or] at apart
      rcases of_append_cons split apart.2 with ⟨_, same, _⟩ | earlier
      · exact absurd same.symm apart.1
      · exact earlier

theorem of_concat (split : log ++ [first] = past ++ entry :: rest) :
    (log = past ∧ first = entry ∧ rest = []) ∨
      ∃ since, log = past ++ entry :: since ∧ rest = since ++ [first] := by
  rcases of_append_cons split List.not_mem_nil with ⟨same, here, none⟩ | earlier
  · exact .inl ⟨same, here, none.symm⟩
  · exact .inr earlier

end LiveList.Log
