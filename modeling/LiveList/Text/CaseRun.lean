/-!
Rows of a case table. A row moves every second or every single code point of a stretch by one
distance, which is how letters and their other case are laid out.
-/

namespace LiveList.Text

/-- Every `stride`-th code point from `first` to `last`. The first is sent to `image`, and each
other one stands as far from its image as the first does. -/
structure CaseRun where
  first : Nat
  last : Nat
  stride : Nat
  image : Nat

namespace CaseRun

def image? (run : CaseRun) (code : Nat) : Option Nat :=
  if run.first ≤ code ∧ code ≤ run.last ∧ (code - run.first) % run.stride = 0 then
    some (run.image + (code - run.first))
  else none

def source? (run : CaseRun) (code : Nat) : Option Nat :=
  if run.image ≤ code then
    let candidate := run.first + (code - run.image)
    if run.image? candidate = some code then some candidate else none
  else none

end CaseRun

def mapCase (table : List CaseRun) (c : Char) : Char :=
  match table.findSome? (CaseRun.image? · c.toNat) with
  | some code => Char.ofNat code
  | none => c

end LiveList.Text
