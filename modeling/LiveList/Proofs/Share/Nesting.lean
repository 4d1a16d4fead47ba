import LiveList.Proofs.Share.Steps
import LiveList.Proofs.Source.Apart

/-!
Shared directories that lie within each other. A path goes on below another one after a slash of
either kind, but the check of a new directory looks for one kind only: directories are kept apart
from all that lies below them after a slash, and not from what lies below after a backslash.
-/

namespace LiveList

namespace Path

variable {a b outer inner : List Char} {separator : Char}

def plain (path : List Char) : List Char := Text.lower (trimEnd path)

def Below (separator : Char) (outer inner : List Char) : Prop :=
  plain outer ++ [separator] <+: plain inner

instance : Decidable (Below separator outer inner) :=
  inferInstanceAs (Decidable (plain outer ++ [separator] <+: plain inner))

/-- A path is another one or lies below it, whichever way the slashes lean. -/
def Within (outer inner : List Char) : Prop :=
  plain inner = plain outer ∨ Below '/' outer inner ∨ Below '\\' outer inner

theorem normal_isPrefixOf_normal :
    (normal outer).isPrefixOf (normal inner) = true ↔
      plain inner = plain outer ∨ Below '/' outer inner := by
  rw [List.isPrefixOf_iff_prefix]
  show plain outer ++ ['/'] <+: plain inner ++ ['/'] ↔ _
  rw [List.prefix_concat_iff, List.append_cancel_right_eq, eq_comm]
  rfl

theorem overlap_iff :
    overlap a b = true ↔ plain a = plain b ∨ Below '/' b a ∨ Below '/' a b := by
  rw [overlap, Bool.or_eq_true, normal_isPrefixOf_normal, normal_isPrefixOf_normal,
    eq_comm (a := plain b), ← or_or_distrib_left]

/-- Paths that do not overlap are different, and nesting is by backslashes only. -/
theorem within_iff (apart : overlap outer inner = false) :
    Within outer inner ↔ Below '\\' outer inner := by
  have free := mt overlap_iff.mpr (Bool.eq_false_iff.mp apart)
  constructor
  · rintro (same | slash | backslash)
    · exact absurd (.inl same.symm) free
    · exact absurd (.inr (.inr slash)) free
    · exact backslash
  · exact fun backslash => .inr (.inr backslash)

end Path

namespace Share

def Overlap (a b : String) : Prop := Path.overlap a.toList b.toList = true

instance : Std.Symm Overlap where
  symm a b overlap := by
    rw [Overlap, Path.overlap, Bool.or_comm]
    exact overlap

theorem apart_run (operations : List ShareOperation) :
    (keeper.after operations).Apart ShareRoot.path Overlap := by
  refine keeper_steps.keeps .start ?_ operations
  intro share sound apart operation
  rcases operate_revision sound operation with ⟨path, update, rfl⟩ | revision
  · refine Published.settled_keeps apart fun {done} success => ?_
    obtain ⟨root, _, admitted, rfl⟩ := addRoot_ok success
    refine (Catalog.apart_add_iff apart sound).mpr fun other listed => ?_
    exact Bool.eq_false_iff.mp (admitted.apart other listed)
  · refine apart.revise revision sound ?_
    intro old new reports edit
    cases edit with
    | update virtualName profiles incoming named published made => rw [made]
    | begin | finish => rfl

/-- Of two directories that are shared, one lies within the other exactly if its path goes on below
the other one's after a backslash. -/
theorem within_iff_backslash (operations : List ShareOperation) {first second : Nat}
    {outer inner : ShareRoot} (different : first ≠ second)
    (there : (keeper.after operations).get? first = some outer)
    (here : (keeper.after operations).get? second = some inner) :
    Path.Within outer.path.toList inner.path.toList ↔
      Path.Below '\\' outer.path.toList inner.path.toList :=
  Path.within_iff (Bool.eq_false_iff.mpr (apart_run operations different there here))

def driveRoots : List ShareOperation :=
  [.addRoot "C:\\Music" { profiles := some [1] }, .addRoot "C:\\Music\\Live" { profiles := some [1] }]

def driveRoot (token : Nat) (path virtualName : String) : ShareRoot :=
  { token, path, virtualName, profiles := [1] }

theorem driveRoots_first :
    (keeper.after driveRoots).get? 1 = some (driveRoot 1 "C:\\Music" "Music") := rfl

theorem driveRoots_second :
    (keeper.after driveRoots).get? 2 = some (driveRoot 2 "C:\\Music\\Live" "Live") := rfl

theorem driveRoots_within : Path.Within "C:\\Music".toList "C:\\Music\\Live".toList :=
  (within_iff_backslash driveRoots (by decide) driveRoots_first driveRoots_second).mpr (by decide)

theorem driveRoots_nested :
    ¬ (keeper.after driveRoots).Apart ShareRoot.path fun a b => Path.Within a.toList b.toList := by
  intro apart
  exact apart (by decide) driveRoots_first driveRoots_second (.inr (.inr (by decide)))

end Share

end LiveList
