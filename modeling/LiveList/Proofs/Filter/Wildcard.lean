import LiveList.Filter.Basic
import LiveList.Proofs.Regex.Matching

/-!
Wildcard patterns. Whatever characters a pattern is made of, the regular expression that is written
for it can be read, and it matches values that the pattern covers from end to end. It does not match
all of them: a wildcard should take any character and does not take a line feed, so that values with
more line feeds than the pattern are lost.
-/

namespace LiveList

open Regex

namespace Wildcard

variable {c : Char} {pattern text part : List Char} {wild : Char → Prop} {i j k : Nat}

section Covering

/-- A character of the pattern takes a part of the text: `*` takes any number of wild characters,
`?` takes one, and others take one that is the same up to its case. -/
inductive Takes (wild : Char → Prop) : Char → List Char → Prop
  | any {part : List Char} (each : ∀ x ∈ part, wild x) : Takes wild '*' part
  | one {x : Char} (free : wild x) : Takes wild '?' [x]
  | same {c x : Char} (star : c ≠ '*') (mark : c ≠ '?') (alike : Text.sameFolded x c = true) :
      Takes wild c [x]

/-- The text splits into parts, and the characters of the pattern take one each. -/
inductive Covers (wild : Char → Prop) : List Char → List Char → Prop
  | nil : Covers wild [] []
  | cons {c : Char} {part pattern text : List Char} (takes : Takes wild c part)
      (rest : Covers wild pattern text) : Covers wild (c :: pattern) (part ++ text)

/-- A character that is no wildcard takes itself. -/
theorem Takes.itself (star : c ≠ '*') (mark : c ≠ '?') : Takes wild c [c] :=
  .same star mark (beq_self_eq_true _)

/-- What a character of a pattern can be. -/
theorem star_or_mark (c : Char) : c = '*' ∨ c = '?' ∨ c ≠ '*' ∧ c ≠ '?' := by
  by_cases star : c = '*'
  · exact .inl star
  by_cases mark : c = '?'
  · exact .inr (.inl mark)
  · exact .inr (.inr ⟨star, mark⟩)

end Covering

section Reading

abbrev folding : Flags := { ignoreCase := true }

def lineChar : Regex := .one fun c => c != '\n'

def piece (c : Char) : Piece :=
  if c = '*' then { regex := .repeated lineChar 0 none, depth := 1, weight := dotWeight }
  else if c = '?' then { regex := lineChar, weight := dotWeight }
  else { regex := .one fun x => Text.sameFolded x c, weight := literalWeight }

def expression (pattern : List Char) : Regex :=
  concat (textStart :: (pattern.map (piece · |>.regex) ++ [textEnd]))

def weight (pattern : List Char) : Nat :=
  pattern.foldr (fun c sum => sum + (piece c).weight) 0

def Fits (pattern : List Char) : Prop := weight pattern ≤ weightLimit

instance (pattern : List Char) : Decidable (Fits pattern) :=
  inferInstanceAs (Decidable (_ ≤ _))

variable {fuel : Nat} {inside : Bool} {names : List (List Char)} {branches pieces : List Piece}
  {rest : List Char}

theorem readBranches_dot :
    readBranches (fuel + 1) inside folding names branches pieces ('.' :: rest) =
      readBranches fuel inside folding names branches (piece '?' :: pieces) rest :=
  rfl

theorem readBranches_star :
    readBranches (fuel + 1) inside folding names branches (piece '?' :: pieces) ('*' :: rest) =
      readBranches fuel inside folding names branches (piece '*' :: pieces) (skipLazy rest) :=
  rfl

/-- What means something in a regular expression stands for itself once it is quoted. -/
theorem readEscape_meta (quoted : isMeta c = true) :
    readEscape folding (c :: rest) = some (.char c, rest) := by
  have among : c ∈ "\\.+*?()|[]\x7b\x7d^$#&-~".toList := List.contains_iff_mem.mp quoted
  simp at among
  rcases among with rfl | rfl | rfl | rfl | rfl | rfl | rfl | rfl | rfl | rfl | rfl | rfl | rfl |
    rfl | rfl | rfl | rfl | rfl
  all_goals rfl

def operators : List Char := [')', '|', '(', '[', '*', '+', '?', '\x7b']

theorem readBranches_atom {atom : Piece} {after : List Char} (apart : c ∉ operators)
    (read : readAtom folding (c :: rest) = some (atom, after)) :
    readBranches (fuel + 1) inside folding names branches pieces (c :: rest) =
      readBranches fuel inside folding names branches (atom :: pieces) after := by
  have same : skipSpaced folding (c :: rest) = c :: rest := rfl
  rw [readBranches, same]
  split
  case h_1 none => cases none
  case h_10 => rw [read]
  all_goals
    rename_i same
    refine absurd ?_ apart
    rw [List.head_eq_of_cons_eq same]
    decide

theorem readBranches_quoted (quoted : isMeta c = true) (star : c ≠ '*') (mark : c ≠ '?') :
    readBranches (fuel + 1) inside folding names branches pieces ('\\' :: c :: rest) =
      readBranches fuel inside folding names branches (piece c :: pieces) rest := by
  apply readBranches_atom (by decide)
  simp [readAtom, readEscape_meta quoted, classLiteral?, literalClass, piece, star, mark]

theorem readBranches_plain (plain : isMeta c = false) :
    readBranches (fuel + 1) inside folding names branches pieces (c :: rest) =
      readBranches fuel inside folding names branches (piece c :: pieces) rest := by
  have apart {d : Char} (quoted : isMeta d = true) : c ≠ d := by
    rintro rfl
    rw [plain] at quoted
    cases quoted
  have star : c ≠ '*' := apart (by decide)
  have mark : c ≠ '?' := apart (by decide)
  apply readBranches_atom
  · intro member
    have each : (operators.all isMeta) = true := by decide
    exact apart (List.all_eq_true.mp each c member) rfl
  · rw [readAtom]
    · simp [classLiteral?, literalClass, piece, star, mark]
    all_goals exact apart (by decide)

/-- Nothing that is written starts with a question mark, which would belong to the repetition
before it. -/
theorem skipLazy_written (pattern : List Char) :
    skipLazy (pattern.flatMap written ++ ['$']) = pattern.flatMap written ++ ['$'] := by
  cases pattern with
  | nil => rfl
  | cons c pattern =>
      rw [List.flatMap_cons, written]
      split
      · rfl
      split
      · rfl
      split
      · rfl
      · rename_i star mark plain
        exact skipLazy.eq_2 _ fun rest same => mark (List.head_eq_of_cons_eq same)

def startPiece : Piece := { regex := textStart }

def endPiece : Piece := { regex := textEnd }

/-- What is written for a character is read back as its piece, in no more steps than it is long. -/
theorem exists_readBranches (lazy : skipLazy rest = rest) (c : Char) :
    ∃ steps ≤ (written c).length, ∀ fuel pieces,
      readBranches (fuel + steps) inside folding names branches pieces (written c ++ rest) =
        readBranches fuel inside folding names branches (piece c :: pieces) rest := by
  rcases star_or_mark c with rfl | rfl | ⟨star, mark⟩
  · refine ⟨2, Nat.le_refl _, fun fuel pieces => ?_⟩
    conv_rhs => rw [← lazy]
    exact readBranches_dot.trans readBranches_star
  · exact ⟨1, Nat.le_refl _, fun fuel pieces => readBranches_dot⟩
  · cases quoted : isMeta c with
    | true =>
        have two : written c = ['\\', c] := by simp [written, star, mark, quoted]
        rw [two]
        exact ⟨1, Nat.le_succ _, fun fuel pieces => readBranches_quoted quoted star mark⟩
    | false =>
        have one : written c = [c] := by simp [written, star, mark, quoted]
        rw [one]
        exact ⟨1, Nat.le_refl _, fun fuel pieces => readBranches_plain quoted⟩

theorem readBranches_written (pattern : List Char) (pieces : List Piece) (fuel : Nat)
    (enough : (pattern.flatMap written).length + 2 ≤ fuel) :
    readBranches fuel false folding names branches pieces (pattern.flatMap written ++ ['$']) =
      some (joinBranches
        (joinPieces (endPiece :: ((pattern.map piece).reverse ++ pieces)) :: branches),
        names, []) := by
  induction pattern generalizing pieces fuel with
  | nil =>
      obtain ⟨fuel, rfl⟩ := Nat.exists_eq_add_of_le' enough
      rfl
  | cons c pattern ih =>
      rw [List.flatMap_cons, List.length_append] at enough
      obtain ⟨steps, few, read⟩ := exists_readBranches (skipLazy_written pattern) c
      obtain ⟨fuel, rfl⟩ := Nat.exists_eq_add_of_le' (show steps ≤ fuel by omega)
      rw [List.flatMap_cons, List.append_assoc, read, ih _ _ (by omega), List.map_cons,
        List.reverse_cons, List.append_assoc, List.singleton_append]

theorem depth_piece (c : Char) : (piece c).depth ≤ 1 := by
  rw [piece]
  split
  · exact Nat.le_refl 1
  split
  · exact Nat.zero_le 1
  · exact Nat.zero_le 1

theorem foldl_max_le {bound first : Nat} {depths : List Nat} (start : first ≤ bound)
    (each : ∀ depth ∈ depths, depth ≤ bound) : depths.foldl max first ≤ bound := by
  induction depths generalizing first with
  | nil => exact start
  | cons depth depths ih =>
      obtain ⟨here, others⟩ := List.forall_mem_cons.mp each
      exact ih (Nat.max_le.mpr ⟨start, here⟩) others

def whole (pattern : List Char) : List Piece :=
  endPiece :: ((pattern.map piece).reverse ++ [startPiece])

theorem reverse_whole (pattern : List Char) :
    (whole pattern).reverse = startPiece :: (pattern.map piece ++ [endPiece]) := by
  simp [whole]

theorem regex_whole (pattern : List Char) :
    (joinBranches [joinPieces (whole pattern)]).regex = expression pattern := by
  show concat ((whole pattern).reverse.map (·.regex)) = _
  rw [reverse_whole, List.map_cons, List.map_append, List.map_map]
  rfl

theorem weight_whole (pattern : List Char) :
    (joinBranches [joinPieces (whole pattern)]).weight = weight pattern := by
  show 0 + (whole pattern).foldl (fun sum piece => sum + piece.weight) 0 = _
  rw [Nat.zero_add, whole, List.foldl_cons, List.foldl_append, List.foldl_reverse, List.foldr_map]
  rfl

theorem depth_whole (pattern : List Char) :
    (joinBranches [joinPieces (whole pattern)]).depth ≤ 2 := by
  have each : ∀ depth ∈ (whole pattern).map (·.depth), depth ≤ 1 := by
    intro depth member
    rw [← List.mem_reverse, ← List.map_reverse, reverse_whole] at member
    simp only [List.map_cons, List.map_append, List.map_map, List.map_nil, List.mem_cons,
      List.mem_append, List.mem_map, List.not_mem_nil, or_false] at member
    rcases member with rfl | ⟨c, _, rfl⟩ | rfl
    · exact Nat.zero_le 1
    · exact depth_piece c
    · exact Nat.zero_le 1
  have most := foldl_max_le (Nat.zero_le 1) each
  show max 0 (if _ then _ + 1 else _) ≤ 2
  rw [Nat.zero_max]
  split
  · exact Nat.succ_le_succ most
  · exact most.trans (Nat.le_succ 1)

theorem readBranches_source (pattern : List Char) :
    readBranches ((source pattern).length + 2) false folding [] [] [] (source pattern) =
      some (joinBranches [joinPieces (whole pattern)], [], []) := by
  have length : (source pattern).length + 2 = (pattern.flatMap written).length + 3 + 1 := by
    rw [source, List.length_append, List.length_cons, List.length_singleton]
  rw [length]
  exact readBranches_written pattern [startPiece] _ (Nat.le_succ _)

/-- The expression that is written for a pattern can be read, unless it takes too much room. -/
theorem ofPattern?_source (pattern : List Char) :
    ofPattern? folding (String.ofList (source pattern)) =
      if Fits pattern then some (expression pattern) else none := by
  have nested := (depth_whole pattern).trans (show 2 ≤ nestingLimit by decide)
  have room : Fits pattern ↔
      (joinBranches [joinPieces (whole pattern)]).weight ≤ weightLimit := by
    rw [Fits, weight_whole]
  rw [ofPattern?, String.toList_ofList, readBranches_source, ← regex_whole]
  by_cases fits : Fits pattern
  · rw [if_pos fits]
    exact if_pos ⟨nested, room.mp fits⟩
  · rw [if_neg fits]
    exact if_neg fun both => fits (room.mpr both.2)

end Reading

section Matching

def Stands (text : List Char) (i : Nat) (part : List Char) (j : Nat) : Prop :=
  part <+: text.drop i ∧ i + part.length = j

theorem stands_nil : Stands text i [] j ↔ i = j := by
  simp [Stands]

theorem stands_append {first second : List Char} :
    Stands text i (first ++ second) k ↔ ∃ j, Stands text i first j ∧ Stands text j second k := by
  constructor
  · rintro ⟨⟨rest, whole⟩, rfl⟩
    rw [List.append_assoc] at whole
    refine ⟨i + first.length, ⟨⟨_, whole⟩, rfl⟩, ⟨rest, ?_⟩, ?_⟩
    · rw [← List.drop_drop, ← whole, List.drop_left]
    · rw [List.length_append, Nat.add_assoc]
  · rintro ⟨_, ⟨⟨rest, whole⟩, rfl⟩, ⟨more, after⟩, rfl⟩
    rw [← List.drop_drop, ← whole, List.drop_left] at after
    refine ⟨⟨more, ?_⟩, ?_⟩
    · rw [← whole, ← after, List.append_assoc]
    · rw [List.length_append, Nat.add_assoc]

theorem stands_singleton : Stands text i [c] j ↔ i + 1 = j ∧ text[i]? = some c := by
  rw [Stands, List.length_singleton, and_comm, ← List.head?_drop]
  cases text.drop i <;> simp [eq_comm]

theorem matches_one {accepts : Char → Bool} :
    Matches text (.one accepts) i j ↔ ∃ c, Stands text i [c] j ∧ accepts c = true := by
  simp only [Matches, stands_singleton, and_assoc, exists_and_left]

theorem rounds_one {accepts : Char → Bool} (count : Nat) :
    Rounds (Matches text (.one accepts)) count i j ↔
      ∃ part, part.length = count ∧ (∀ c ∈ part, accepts c = true) ∧ Stands text i part j := by
  induction count generalizing j with
  | zero => simp [Rounds, stands_nil, List.length_eq_zero_iff]
  | succ count ih =>
      simp only [Rounds, ih, matches_one]
      constructor
      · rintro ⟨k, ⟨part, rfl, each, front⟩, c, last, accepted⟩
        refine ⟨part ++ [c], by simp, ?_, stands_append.mpr ⟨k, front, last⟩⟩
        simpa [or_imp, forall_and] using ⟨each, accepted⟩
      · rintro ⟨part, length, each, stands⟩
        obtain rfl | ⟨front, c, rfl⟩ := List.eq_nil_or_concat' part
        · cases length
        · obtain ⟨k, first, last⟩ := stands_append.mp stands
          obtain ⟨others, accepted⟩ := List.forall_mem_append.mp each
          rw [List.length_append, List.length_singleton, Nat.add_right_cancel_iff] at length
          exact ⟨k, ⟨front, length, others, first⟩, c, last, accepted c List.mem_cons_self⟩

theorem matches_star :
    Matches text (piece '*').regex i j ↔
      ∃ part, (∀ x ∈ part, x ≠ '\n') ∧ Stands text i part j := by
  constructor
  · rintro ⟨count, _, _, reached⟩
    obtain ⟨part, _, each, stands⟩ := (rounds_one count).mp reached
    exact ⟨part, fun x member => bne_iff_ne.mp (each x member), stands⟩
  · rintro ⟨part, each, stands⟩
    exact ⟨part.length, Nat.zero_le _, nofun, (rounds_one part.length).mpr
      ⟨part, rfl, fun x member => bne_iff_ne.mpr (each x member), stands⟩⟩

theorem matches_piece :
    Matches text (piece c).regex i j ↔
      ∃ part, Takes (· ≠ '\n') c part ∧ Stands text i part j := by
  rcases star_or_mark c with rfl | rfl | ⟨star, mark⟩
  · rw [matches_star]
    constructor
    · rintro ⟨part, each, stands⟩
      exact ⟨part, .any each, stands⟩
    · rintro ⟨part, takes, stands⟩
      cases takes with
      | any each => exact ⟨part, each, stands⟩
      | same star => exact absurd rfl star
  · apply matches_one.trans
    constructor
    · rintro ⟨x, stands, other⟩
      exact ⟨[x], .one (bne_iff_ne.mp other), stands⟩
    · rintro ⟨part, takes, stands⟩
      cases takes with
      | one other => exact ⟨_, stands, bne_iff_ne.mpr other⟩
      | same _ mark => exact absurd rfl mark
  · rw [piece, if_neg star, if_neg mark, matches_one]
    constructor
    · rintro ⟨x, stands, alike⟩
      exact ⟨[x], .same star mark alike, stands⟩
    · rintro ⟨part, takes, stands⟩
      cases takes with
      | any => exact absurd rfl star
      | one => exact absurd rfl mark
      | same _ _ alike => exact ⟨_, stands, alike⟩

theorem matches_concat_cons {first : Regex} {others : List Regex} (some : others ≠ []) :
    Matches text (concat (first :: others)) i k ↔
      ∃ j, Matches text first i j ∧ Matches text (concat others) j k := by
  cases others with
  | nil => exact absurd rfl some
  | cons second others => rfl

/-- What follows the start of the text in an expression. -/
theorem matches_rest (pattern : List Char) :
    Matches text (concat (pattern.map (piece · |>.regex) ++ [textEnd])) i j ↔
      ∃ part, Covers (· ≠ '\n') pattern part ∧ Stands text i part j ∧ text[j]? = none := by
  induction pattern generalizing i with
  | nil =>
      constructor
      · rintro ⟨same, last⟩
        exact ⟨[], .nil, stands_nil.mpr same, same ▸ Option.isNone_iff_eq_none.mp last⟩
      · rintro ⟨_, covers, stands, last⟩
        cases covers
        obtain rfl := stands_nil.mp stands
        exact ⟨rfl, Option.isNone_iff_eq_none.mpr last⟩
  | cons c pattern ih =>
      rw [List.map_cons, List.cons_append, matches_concat_cons (by simp)]
      simp only [ih, matches_piece]
      constructor
      · rintro ⟨k, ⟨part, takes, first⟩, others, covers, rest, last⟩
        exact ⟨part ++ others, .cons takes covers, stands_append.mpr ⟨k, first, rest⟩, last⟩
      · rintro ⟨_, covers, stands, last⟩
        cases covers with
        | cons takes rest =>
            obtain ⟨k, first, others⟩ := stands_append.mp stands
            exact ⟨k, ⟨_, takes, first⟩, _, rest, others, last⟩

/-- Only the first place of a text has nothing before it. -/
theorem before_eq_none (inside : i ≤ text.length) : before text i = none ↔ i = 0 := by
  unfold before
  split
  · simp [*]
  · simp only [List.getElem?_eq_none_iff]
    omega

/-- The expression matches the texts that the pattern covers. -/
theorem found_expression :
    (expression pattern).found text = true ↔ Covers (· ≠ '\n') pattern text := by
  rw [found_iff]
  simp only [expression, matches_concat_cons (List.concat_ne_nil _ _), matches_rest]
  constructor
  · rintro ⟨i, j, start, _, ⟨rfl, first⟩, part, covers, ⟨front, rfl⟩, last⟩
    obtain rfl := (before_eq_none start).mp (Option.isNone_iff_eq_none.mp first)
    rw [Nat.zero_add, List.getElem?_eq_none_iff] at last
    have all : part = text := front.eq_of_length_le last
    exact all ▸ covers
  · intro covers
    have stands : Stands text 0 text text.length := ⟨List.prefix_rfl, Nat.zero_add _⟩
    exact ⟨0, text.length, Nat.zero_le _, 0, ⟨rfl, rfl⟩, text, covers, stands,
      List.getElem?_eq_none (Nat.le_refl _)⟩

end Matching

section Lines

/-- No other character is the line feed up to its case. -/
theorem fold_eq_linefeed {x : Char} : Text.fold x = '\n' ↔ x = '\n' := by
  constructor
  · unfold Text.fold Text.mapCase
    split
    · rename_i code found
      intro folded
      obtain ⟨run, member, image⟩ := List.exists_of_findSome?_eq_some found
      have low : ∀ run ∈ Text.foldRuns, 10 < run.image := by decide +kernel
      have high : 10 < code := by
        have first := low run member
        rw [Text.CaseRun.image?] at image
        split at image
        · cases image
          omega
        · cases image
      by_cases valid : code.isValidChar
      · rw [Char.ofNat, dif_pos valid] at folded
        have ten : code = 10 := congrArg Char.toNat folded
        omega
      · rw [Char.ofNat, dif_neg valid] at folded
        cases folded
    · exact id
  · rintro rfl
    decide

theorem sameFolded_linefeed {x : Char} (alike : Text.sameFolded x c = true) :
    x = '\n' ↔ c = '\n' := by
  rw [← fold_eq_linefeed, ← @fold_eq_linefeed c, beq_iff_eq.mp alike]

theorem Takes.widen (takes : Takes wild c part) : Takes (fun _ => True) c part := by
  cases takes with
  | any => exact .any fun _ _ => trivial
  | one => exact .one trivial
  | same star mark alike => exact .same star mark alike

/-- A part has the line feeds of the character that takes it, and those that a wildcard takes. -/
theorem Takes.linefeed_le (takes : Takes wild c part) : [c].count '\n' ≤ part.count '\n' := by
  cases takes with
  | any | one => exact Nat.zero_le _
  | same _ _ alike => simp [List.count_singleton, sameFolded_linefeed alike]

theorem Takes.linefeed_eq_iff (takes : Takes (fun _ => True) c part) :
    part.count '\n' = [c].count '\n' ↔ Takes (· ≠ '\n') c part := by
  constructor
  · intro same
    cases takes with
    | any =>
        apply Takes.any
        rintro x member rfl
        exact List.count_eq_zero.mp same member
    | one =>
        apply Takes.one
        rintro rfl
        exact List.count_eq_zero.mp same List.mem_cons_self
    | same star mark alike => exact .same star mark alike
  · intro sharp
    cases sharp with
    | any each => exact List.count_eq_zero.mpr fun member => each _ member rfl
    | one other =>
        exact List.count_eq_zero.mpr fun member => other (List.mem_singleton.mp member).symm
    | same _ _ alike => simp [List.count_singleton, sameFolded_linefeed alike]

theorem Covers.imp {other : Char → Prop} (covers : Covers wild pattern text)
    (each : ∀ c ∈ pattern, ∀ part, Takes wild c part → Takes other c part) :
    Covers other pattern text := by
  induction covers with
  | nil => exact .nil
  | cons takes _ ih =>
      obtain ⟨first, others⟩ := List.forall_mem_cons.mp each
      exact .cons (first _ takes) (ih others)

theorem count_cons (c : Char) (pattern : List Char) :
    (c :: pattern).count '\n' = [c].count '\n' + pattern.count '\n' := by
  rw [← List.singleton_append, List.count_append]

theorem Covers.linefeed_le (covers : Covers wild pattern text) :
    pattern.count '\n' ≤ text.count '\n' := by
  induction covers with
  | nil => exact Nat.le_refl _
  | cons takes _ ih =>
      rw [count_cons, List.count_append]
      exact Nat.add_le_add takes.linefeed_le ih

/-- A text that is covered with as many line feeds as the pattern has is covered without any that a
wildcard takes: each line feed of the pattern has taken one already. -/
theorem covers_lines_iff :
    Covers (· ≠ '\n') pattern text ↔
      Covers (fun _ => True) pattern text ∧ text.count '\n' = pattern.count '\n' := by
  constructor
  · intro covers
    refine ⟨covers.imp fun _ _ _ takes => takes.widen, ?_⟩
    induction covers with
    | nil => rfl
    | cons takes _ ih =>
        rw [count_cons, List.count_append, takes.widen.linefeed_eq_iff.mpr takes, ih]
  · rintro ⟨covers, same⟩
    induction covers with
    | nil => exact .nil
    | cons takes rest ih =>
        have first := takes.linefeed_le
        have others := rest.linefeed_le
        rw [count_cons, List.count_append] at same
        exact .cons (takes.linefeed_eq_iff.mp (by omega)) (ih (by omega))

def broken (pattern : List Char) : List Char :=
  pattern.map fun c => if c = '*' ∨ c = '?' then '\n' else c

theorem takes_broken (c : Char) :
    Takes (fun _ => True) c [if c = '*' ∨ c = '?' then '\n' else c] := by
  rcases star_or_mark c with rfl | rfl | ⟨star, mark⟩
  · exact .any fun _ _ => trivial
  · exact .one trivial
  · simpa [star, mark] using Takes.itself star mark

theorem covers_broken (pattern : List Char) : Covers (fun _ => True) pattern (broken pattern) := by
  induction pattern with
  | nil => exact .nil
  | cons c pattern ih => exact .cons (takes_broken c) ih

theorem count_broken (pattern : List Char) :
    (broken pattern).count '\n' =
      pattern.count '\n' + pattern.countP fun c => c = '*' ∨ c = '?' := by
  induction pattern with
  | nil => rfl
  | cons c pattern ih =>
      rw [broken, List.map_cons, List.count_cons, ← broken, ih, List.count_cons, List.countP_cons]
      by_cases wildcard : c = '*' ∨ c = '?'
      · have other : c ≠ '\n' := by
          rintro rfl
          revert wildcard
          decide
        simp [wildcard, other]
        omega
      · simp [wildcard]
        omega

end Lines

end Wildcard

namespace Filter

open Wildcard

/-- The filter matches the value exactly if the pattern covers it, whatever its wildcards take. -/
def Globs (filter : Filter) (pattern value : String) : Prop :=
  filter.matchesText value = true ↔ Covers (fun _ => True) pattern.toList value.toList

theorem compile_wildcard {pattern : String} (fits : Fits pattern.toList) (target : FilterTarget) :
    compile target .wildcard (.text pattern) = .ok ⟨target, .wildcard, .text pattern,
      .found (expression pattern.toList), Threshold.read? pattern⟩ := by
  have text : TextMatcher.compile .wildcard pattern = .ok (.found (expression pattern.toList)) := by
    rw [TextMatcher.compile, TextMatcher.ofRegex, ofPattern?_source, if_pos fits]
  show (TextMatcher.compile .wildcard pattern >>= _) = _
  rw [text]
  rfl

/-- Wildcard filters of any characters can be compiled, and match the values that the pattern covers
with as many line feeds as it has itself: all that it covers if it has no wildcards, and otherwise
not all, but all of a single line. -/
theorem wildcards_within_lines {pattern : String} (fits : Fits pattern.toList)
    (target : FilterTarget) :
    ∃ filter, compile target .wildcard (.text pattern) = .ok filter ∧
      (∀ value : String, filter.matchesText value = true ↔
        Covers (fun _ => True) pattern.toList value.toList ∧
          value.toList.count '\n' = pattern.toList.count '\n') ∧
      (∀ value : String, '\n' ∉ value.toList → Globs filter pattern value) ∧
      ((∀ value, Globs filter pattern value) ↔ '*' ∉ pattern.toList ∧ '?' ∉ pattern.toList) := by
  have exact (value : String) : (expression pattern.toList).found value.toList = true ↔
      Covers (fun _ => True) pattern.toList value.toList ∧
        value.toList.count '\n' = pattern.toList.count '\n' := by
    rw [found_expression, covers_lines_iff]
  refine ⟨_, compile_wildcard fits target, exact, fun value single => ?_, ?_⟩
  · refine (exact value).trans (and_iff_left_of_imp fun covers => ?_)
    have less := covers.linefeed_le
    rw [List.count_eq_zero.mpr single] at less ⊢
    exact (Nat.le_zero.mp less).symm
  constructor
  · intro globs
    have broken := (globs (String.ofList (broken pattern.toList))).mpr
    rw [String.toList_ofList] at broken
    have same := ((exact _).mp (broken (covers_broken _))).2
    rw [String.toList_ofList, count_broken, Nat.add_eq_left, List.countP_eq_zero] at same
    exact ⟨fun star => same '*' star (by decide), fun mark => same '?' mark (by decide)⟩
  · rintro ⟨star, mark⟩ value
    refine (exact value).trans (and_iff_left_of_imp fun covers => ?_)
    have sharp : Covers (· ≠ '\n') pattern.toList value.toList := by
      apply covers.imp
      rintro c among part (_ | _ | ⟨literal, single, alike⟩)
      · exact absurd among star
      · exact absurd among mark
      · exact .same literal single alike
    exact (covers_lines_iff.mp sharp).2

/-- Characters with a meaning in regular expressions stand for themselves. -/
theorem brackets_matched : Fits "[*].?".toList ∧
    ∃ filter, compile (.property 1) .wildcard (.text "[*].?") = .ok filter ∧
      filter.matchesText "[CD 1].x" = true := by
  have fits : Fits "[*].?".toList := by decide
  have covers : Covers (fun _ => True) "[*].?".toList
      (['['] ++ ("CD 1".toList ++ ([']'] ++ (['.'] ++ (['x'] ++ []))))) :=
    .cons (.itself (by decide) (by decide)) (.cons (.any fun _ _ => trivial)
      (.cons (.itself (by decide) (by decide)) (.cons (.itself (by decide) (by decide))
        (.cons (.one trivial) .nil))))
  obtain ⟨filter, compiled, exact, _⟩ := wildcards_within_lines fits (.property 1)
  exact ⟨fits, filter, compiled, (exact _).mpr ⟨covers, rfl⟩⟩

/-- Between the ends of a pattern, a line feed is not taken. -/
theorem linefeed_lost :
    ∃ filter, compile (.property 1) .wildcard (.text "a*b") = .ok filter ∧
      filter.matchesText "a\nb" = false ∧ ¬ Globs filter "a*b" "a\nb" := by
  have lost : (expression "a*b".toList).found "a\nb".toList = false := by decide +kernel
  have covers : Covers (fun _ => True) "a*b".toList (['a'] ++ (['\n'] ++ (['b'] ++ []))) :=
    .cons (.itself (by decide) (by decide)) (.cons (.any fun _ _ => trivial)
      (.cons (.itself (by decide) (by decide)) .nil))
  refine ⟨_, compile_wildcard (by decide) _, lost, fun globs => ?_⟩
  exact Bool.false_ne_true (lost.symm.trans (globs.mpr covers))

end Filter

end LiveList
