import LiveList.Json.Basic
import Mathlib.Data.List.Basic

/-!
Arithmetic of 64 bits. An operation gives nothing where a machine would overflow, go below zero, or
leave a list.
-/

namespace LiveList.Word

variable {Item : Type}

def next? (n : Nat) : Option Nat := if n + 1 < UInt64.size then some (n + 1) else none

def previous? (n : Nat) : Option Nat := if 0 < n then some (n - 1) else none

def addSaturating (a b : Nat) : Nat := min (a + b) (UInt64.size - 1)

def signed (n : Nat) : Int := (BitVec.ofNat 64 n).toInt

def difference? (a b : Nat) : Option Int :=
  let difference := signed a - signed b
  if -(signedLimit : Int) ≤ difference ∧ difference < signedLimit then some difference else none

def slice? (items : List Item) (start stop : Nat) : Option (List Item) :=
  if start ≤ stop ∧ stop ≤ items.length then some ((items.take stop).drop start) else none

theorem next?_eq {n : Nat} (room : n + 1 < UInt64.size) : next? n = some (n + 1) := if_pos room

theorem previous?_eq {n : Nat} (positive : 0 < n) : previous? n = some (n - 1) := if_pos positive

theorem signed_eq {n : Nat} (small : n < signedLimit) : signed n = n := by
  have fits : n < 2 ^ 63 := small
  rw [signed, BitVec.toInt_eq_toNat_of_lt] <;> rw [BitVec.toNat_ofNat] <;> omega

theorem difference?_eq {a b : Nat} (left : a < signedLimit) (right : b < signedLimit) :
    difference? a b = some ((a : Int) - b) := by
  rw [difference?, signed_eq left, signed_eq right]
  exact if_pos (by omega)

theorem slice?_eq {items : List Item} {start stop : Nat} (forward : start ≤ stop)
    (inside : stop ≤ items.length) :
    slice? items start stop = some ((items.take stop).drop start) := if_pos ⟨forward, inside⟩

end LiveList.Word
