import LiveList.Text.Blank
import LiveList.Text.Lowercase
import Mathlib.Data.List.DropRight

/-!
Blanks in texts. Trimming leaves nothing of a text that is all blank, and of any other text what has
no blank at its ends. The case of letters has nothing to do with it.
-/

namespace LiveList.Text

variable {text blanks : List Char}

def Blank (text : List Char) : Prop := ∀ c ∈ text, isBlank c = true

def Snug (text : List Char) : Prop :=
  (∀ c ∈ text.head?, isBlank c = false) ∧ ∀ c ∈ text.getLast?, isBlank c = false

theorem trimEnd_eq (text : List Char) : trimEnd text = text.rdropWhile isBlank := rfl

theorem trim_eq_nil_iff : trim text = [] ↔ Blank text := by
  rw [trim, trimEnd_eq, List.rdropWhile_eq_nil_iff, trimStart]
  constructor
  · intro rest
    -- What is left at the start would begin with a character that is not blank.
    have none : text.dropWhile isBlank = [] := by
      by_contra some
      have first := List.head_dropWhile_not isBlank some
      rw [rest _ (List.head_mem some)] at first
      cases first
    exact List.dropWhile_eq_nil_iff.mp none
  · intro blank c member
    exact blank c ((List.dropWhile_suffix _).subset member)

theorem snug_trim (text : List Char) : Snug (trim text) := by
  constructor
  · intro c first
    obtain ⟨rest, whole⟩ : trim text <+: trimStart text := List.rdropWhile_prefix _ _
    have start : (text.dropWhile isBlank).head? = some c := by
      rw [← trimStart, ← whole, List.head?_append, first, Option.some_or]
    have apart := List.head?_dropWhile_not isBlank text
    rwa [start] at apart
  · intro c last
    rw [trim, trimEnd, List.getLast?_reverse] at last
    have apart := List.head?_dropWhile_not isBlank (trimStart text).reverse
    rwa [last] at apart

section Ends

theorem trimStart_blank_append (blank : Blank blanks) (text : List Char) :
    trimStart (blanks ++ text) = trimStart text :=
  List.dropWhile_append_of_pos blank

theorem trimEnd_append_blank (blank : Blank blanks) (text : List Char) :
    trimEnd (text ++ blanks) = trimEnd text := by
  rw [trimEnd, List.reverse_append,
    List.dropWhile_append_of_pos fun c member => blank c (List.mem_reverse.mp member), ← trimEnd]

theorem trim_blank_append (blank : Blank blanks) (text : List Char) :
    trim (blanks ++ text) = trim text := by
  rw [trim, trimStart_blank_append blank, ← trim]

theorem trim_append_blank (blank : Blank blanks) (text : List Char) :
    trim (text ++ blanks) = trim text := by
  rw [trim, trim, trimStart, List.dropWhile_append]
  split
  · rename_i none
    rw [trimStart, List.isEmpty_iff.mp none, List.dropWhile_eq_nil_iff.mpr blank]
  · exact trimEnd_append_blank blank _

/-- Only blanks are trimmed off the end. -/
theorem exists_trimEnd_append (text : List Char) :
    ∃ blanks, text = trimEnd text ++ blanks ∧ Blank blanks :=
  ⟨text.rtakeWhile isBlank, List.rdropWhile_append_rtakeWhile.symm,
    fun _ => List.mem_rtakeWhile_imp⟩

/-- Of the two ends, either can be trimmed first. -/
theorem trimStart_trimEnd (text : List Char) : trimStart (trimEnd text) = trim text := by
  obtain ⟨blanks, whole, blank⟩ := exists_trimEnd_append text
  conv_rhs => rw [whole, trim_append_blank blank, trim]
  obtain ⟨front, parts⟩ : trimStart (trimEnd text) <:+ trimEnd text := List.dropWhile_suffix _
  refine (List.rdropWhile_eq_self_iff.mpr fun some => ?_).symm
  -- What is left has the end of the trimmed text.
  have trimmed : trimEnd text ≠ [] := by
    rw [← parts]
    exact List.append_ne_nil_of_right_ne_nil _ some
  have last := List.rdropWhile_last_not isBlank text trimmed
  rwa [← List.getLast_append_of_ne_nil (List.append_ne_nil_of_right_ne_nil front some) some,
    List.getLast_congr _ trimmed parts]

/-- Trimming stops at what is not blank. -/
theorem trimEnd_append (solid : ∀ c ∈ text, isBlank c = false) (rest : List Char) :
    trimEnd (text ++ rest) = text ++ trimEnd rest := by
  have kept : text.reverse.dropWhile isBlank = text.reverse := by
    cases turned : text.reverse with
    | nil => rfl
    | cons c front =>
        have last := solid c (List.mem_reverse.mp (turned ▸ List.mem_cons_self))
        exact List.dropWhile_cons_of_neg (by simp [last])
  rw [trimEnd, List.reverse_append, List.dropWhile_append]
  split
  · rename_i none
    rw [kept, List.reverse_reverse, trimEnd, List.isEmpty_iff.mp none, List.reverse_nil,
      List.append_nil]
  · rw [List.reverse_append, List.reverse_reverse, ← trimEnd]

theorem trim_append (solid : ∀ c ∈ text, isBlank c = false) (some : text ≠ [])
    (rest : List Char) : trim (text ++ rest) = text ++ trimEnd rest := by
  have start : trimStart (text ++ rest) = text ++ rest := by
    cases text with
    | nil => exact absurd rfl some
    | cons c text => exact List.dropWhile_cons_of_neg (by simp [solid c List.mem_cons_self])
  rw [trim, start, trimEnd_append solid]

end Ends

/-- A text without blanks is one word, if it is not empty. -/
theorem words_unbroken (unbroken : ∀ c ∈ text, isBlank c = false) (some : text ≠ []) :
    words text = [text] := by
  have read (word : List Char) (rest : word ++ text ≠ []) :
      wordsFrom word text = [word.reverse ++ text] := by
    clear some
    induction text generalizing word with
    | nil =>
        rw [List.append_nil] at rest ⊢
        rw [wordsFrom, if_neg (by simpa using rest)]
    | cons c text ih =>
        obtain ⟨first, others⟩ := List.forall_mem_cons.mp unbroken
        rw [wordsFrom, if_neg (by simp [first]), ih others _ (List.cons_ne_nil _ _),
          List.reverse_cons, List.append_assoc]
        rfl
  exact read [] some

theorem isBlank_toLower (c : Char) : isBlank c.toLower = isBlank c := by
  unfold Char.toLower
  split
  · rename_i capital
    -- Neither the capital letters nor the small ones are blank.
    have low : 65 ≤ c.toNat := capital.1
    have high : c.toNat ≤ 90 := capital.2
    have small : (c.toNat + 32) % 4294967296 = c.toNat + 32 := Nat.mod_eq_of_lt (by omega)
    rw [Bool.eq_iff_iff]
    simp [isBlank, small]
    omega
  · rfl

theorem blank_lowerAscii : Blank (lowerAscii text) ↔ Blank text := by
  simp [Blank, lowerAscii, isBlank_toLower]

theorem sameAscii_iff {a b : String} :
    sameAscii a b = true ↔ lowerAscii a.toList = lowerAscii b.toList :=
  beq_iff_eq

end LiveList.Text
