/-!
Requests that may fail, taken apart: a request that succeeds has only steps that succeed.
-/

namespace LiveList.Outcome

variable {Error Other First Last : Type}

@[simp]
theorem ok_bind (value : First) (rest : First → Except Error Last) :
    ((.ok value : Except Error First) >>= rest) = rest value :=
  rfl

theorem of_bind_ok {first : Except Error First} {rest : First → Except Error Last} {last : Last}
    (success : (first >>= rest) = .ok last) :
    ∃ value, first = .ok value ∧ rest value = .ok last := by
  cases first with
  | error error => cases success
  | ok value => exact ⟨value, rfl, success⟩

theorem of_map_ok {first : Except Error First} {rest : First → Last} {last : Last}
    (success : first.map rest = .ok last) : ∃ value, first = .ok value ∧ rest value = last := by
  cases first with
  | error error => cases success
  | ok value => exact ⟨value, rfl, Except.ok.inj success⟩

theorem of_mapError_ok {first : Except Error First} {read : Error → Other} {value : First}
    (success : first.mapError read = .ok value) : first = .ok value := by
  cases first with
  | error error => cases success
  | ok found => rw [Except.ok.inj success]

theorem of_pure_ok {value last : Last} (success : (pure value : Except Error Last) = .ok last) :
    value = last :=
  Except.ok.inj success

end LiveList.Outcome
