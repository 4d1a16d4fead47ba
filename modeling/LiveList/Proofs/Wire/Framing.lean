import LiveList.Proofs.Wire.Encoding

/-!
Framing. What is found in a stream is found line by line: each line is read by itself, whatever the
lines before it were, until one of them is broken. In a stream of text the only line that can be
broken is one that is too long, and that has a character across the end of what is read of it.
-/

namespace LiveList

section Lines

variable {Sign : Type} [DecidableEq Sign] {stop : Sign} {line rest : List Sign}

/-- The lines of a stream: what stands between its stops, and what is left after the last one. -/
def linesOf (stop : Sign) (stream : List Sign) : List (List Sign) :=
  let pieces := stream.splitOn stop
  if pieces.getLast? = some [] then pieces.dropLast else pieces

theorem linesOf_last (within : stop ∉ line) (some : line ≠ []) : linesOf stop line = [line] := by
  simp [linesOf, List.splitOn_eq_singleton within, some]

theorem linesOf_cons (within : stop ∉ line) :
    linesOf stop (line ++ stop :: rest) = line :: linesOf stop rest := by
  have more : rest.splitOn stop ≠ [] := List.splitOn_ne_nil stop rest
  simp only [linesOf, List.splitOn_append_cons_self_of_not_mem within]
  rw [List.getLast?_cons_of_ne_nil more, List.dropLast_cons_of_ne_nil more]
  split <;> rfl

/-- A stream has nothing in it, or is the rest of a line, or begins with a line and its stop. -/
theorem lines_induction {holds : List Sign → Prop} (stop : Sign) (nil : holds [])
    (last : ∀ line, stop ∉ line → line ≠ [] → holds line)
    (cons : ∀ line rest, stop ∉ line → holds rest → holds (line ++ stop :: rest))
    (stream : List Sign) : holds stream := by
  by_cases stops : stop ∈ stream
  · obtain ⟨line, rest, whole, within⟩ := List.eq_append_cons_of_mem stops
    have shorter : rest.length < stream.length := by
      rw [whole, List.length_append, List.length_cons]
      omega
    rw [whole]
    exact cons line rest within (lines_induction stop nil last cons rest)
  · by_cases empty : stream = []
    · rw [empty]
      exact nil
    · exact last stream stops empty
termination_by stream.length

end Lines

def untilBroken : List Frame → List Frame
  | [] => []
  | .broken :: _ => [.broken]
  | frame :: rest => frame :: untilBroken rest

theorem untilBroken_cons {frame : Frame} (read : frame ≠ .broken) (rest : List Frame) :
    untilBroken (frame :: rest) = frame :: untilBroken rest := by
  cases frame with
  | broken => exact absurd rfl read
  | line text => rfl
  | tooLong => rfl

theorem untilBroken_singleton (frame : Frame) : untilBroken [frame] = [frame] := by
  cases frame <;> rfl

/-- No line goes missing exactly if each is read as it is due to be, if that is never as broken. -/
theorem untilBroken_map_iff {Line : Type} {read due : Line → Frame}
    (never : ∀ line, due line ≠ .broken) (lines : List Line) :
    untilBroken (lines.map read) = lines.map due ↔ ∀ line ∈ lines, read line = due line := by
  induction lines with
  | nil => simp [untilBroken]
  | cons line rest ih =>
      rw [List.map_cons, List.map_cons, List.forall_mem_cons]
      by_cases broken : read line = .broken
      · have other : read line ≠ due line := broken ▸ (never line).symm
        rw [broken] at other ⊢
        simp [untilBroken, other]
      · rw [untilBroken_cons broken, List.cons.injEq, ih]

namespace LineState

variable {limit : Nat} {line rest bytes : List UInt8}

def verdict (limit : Nat) (line : List UInt8) : Frame :=
  if line.length ≤ limit then frame line.reverse
  else if frame (line.take (limit + 1)).reverse = .broken then .broken
  else .tooLong

theorem feed_skipping (within : lineFeed ∉ line) : feed limit skipping line = (skipping, []) := by
  induction line with
  | nil => rfl
  | cons byte line ih =>
      rw [List.mem_cons, not_or] at within
      obtain ⟨other, within⟩ := within
      simp [feed, step, Ne.symm other, ih within]

theorem feed_stopped (bytes : List UInt8) : feed limit stopped bytes = (stopped, []) := by
  induction bytes with
  | nil => rfl
  | cons byte bytes ih => simp [feed, step, ih]

theorem step_cases (limit : Nat) {state : LineState} (running : state ≠ stopped) (byte : UInt8) :
    step limit state byte = (stopped, some .broken) ∨
      ∃ next found, step limit state byte = (next, found) ∧ next ≠ stopped ∧
        found ≠ some .broken := by
  cases state with
  | stopped => exact absurd rfl running
  | skipping =>
      by_cases ends : byte = lineFeed
      · exact .inr ⟨start limit, some .tooLong, by simp [step, ends], by simp [start], by simp⟩
      · exact .inr ⟨skipping, none, by simp [step, ends], by simp, by simp⟩
  | reading bytes room =>
      by_cases ends : byte = lineFeed
      · cases read : frame bytes with
        | broken => exact .inl (by simp [step, ends, read, after])
        | line text =>
            exact .inr ⟨start limit, some (.line text), by simp [step, ends, read, after],
              by simp [start], by simp⟩
        | tooLong =>
            exact .inr ⟨start limit, some .tooLong, by simp [step, ends, read, after],
              by simp [start], by simp⟩
      · cases room with
        | succ room =>
            exact .inr ⟨reading (byte :: bytes) room, none, by simp [step, ends], by simp, by simp⟩
        | zero =>
            by_cases broken : frame (byte :: bytes) = .broken
            · exact .inl (by simp [step, ends, broken])
            · exact .inr ⟨skipping, none, by simp [step, ends], by simp, by simp⟩

/-- Nothing is found after broken bytes, and nothing else stops the reading. -/
theorem feed_cases {state : LineState} (running : state ≠ stopped) (bytes : List UInt8) :
    ((feed limit state bytes).1 ≠ stopped ∧ .broken ∉ (feed limit state bytes).2) ∨
      (feed limit state bytes).1 = stopped ∧ ∃ clean, .broken ∉ clean ∧
        (feed limit state bytes).2 = clean ++ [.broken] := by
  induction bytes generalizing state with
  | nil => exact .inl ⟨running, List.not_mem_nil⟩
  | cons byte bytes ih =>
      rcases step_cases limit running byte with stops | ⟨next, found, goes, still, read⟩
      · simp [feed, stops, feed_stopped]
      · have first : .broken ∉ found.toList := by simpa using read
        simp only [feed, goes, List.mem_append, not_or]
        rcases ih still with ⟨on, clean⟩ | ⟨ends, clean, whole, last⟩
        · exact .inl ⟨on, first, clean⟩
        · refine .inr ⟨ends, found.toList ++ clean, ?_, by rw [last, List.append_assoc]⟩
          rw [List.mem_append, not_or]
          exact ⟨first, whole⟩

theorem feed_reading {room : Nat} (within : lineFeed ∉ line) (fits : line.length ≤ room) :
    feed limit (reading bytes room) line =
      (reading (line.reverse ++ bytes) (room - line.length), []) := by
  induction line generalizing bytes room with
  | nil => rfl
  | cons byte line ih =>
      rw [List.mem_cons, not_or] at within
      obtain ⟨other, within⟩ := within
      obtain ⟨room, rfl⟩ : ∃ less, room = less + 1 :=
        Nat.exists_eq_add_one_of_ne_zero (by rintro rfl; cases fits)
      have fits : line.length ≤ room := by simpa using fits
      simp [feed, step, Ne.symm other, ih within fits]

theorem feed_short (within : lineFeed ∉ line) (fits : line.length ≤ limit) :
    feed limit (start limit) line = (reading line.reverse (limit - line.length), []) := by
  rw [start, feed_reading within fits, List.append_nil]

theorem verdict_long (long : limit < line.length) :
    verdict limit line = .broken ∧ frame (line.take (limit + 1)).reverse = .broken ∨
      verdict limit line = .tooLong ∧ frame (line.take (limit + 1)).reverse ≠ .broken := by
  rw [verdict, if_neg (Nat.not_le.mpr long)]
  split
  · exact .inl ⟨rfl, ‹_›⟩
  · exact .inr ⟨rfl, ‹_›⟩

/-- A line that is too long is judged by its first bytes, and skipped unless they are broken. -/
theorem feed_long (within : lineFeed ∉ line) (long : limit < line.length) :
    feed limit (start limit) line =
      if verdict limit line = .broken then (stopped, [.broken]) else (skipping, []) := by
  obtain ⟨front, byte, rest, whole, room⟩ :
      ∃ front byte rest, line = front ++ byte :: rest ∧ front.length = limit :=
    ⟨line.take limit, line.get ⟨limit, long⟩, line.drop (limit + 1), by simp,
      List.length_take_of_le (Nat.le_of_lt long)⟩
  rw [whole, List.mem_append, List.mem_cons, not_or, not_or] at within
  obtain ⟨early, here, late⟩ := within
  have read : line.take (limit + 1) = front ++ [byte] := by simp [whole, ← room, List.take_append]
  have begun : feed limit (start limit) front = (reading front.reverse 0, []) := by
    rw [feed_short early (Nat.le_of_eq room), room, Nat.sub_self]
  -- The byte after the first ones is the one too many.
  have judged := verdict_long long
  rw [read, List.reverse_append, List.reverse_singleton, List.singleton_append] at judged
  rw [whole, feed_append, begun, ← whole]
  rcases judged with ⟨verdict, broken⟩ | ⟨verdict, read⟩
  · simp [feed, step, Ne.symm here, broken, verdict, feed_stopped]
  · simp [feed, step, Ne.symm here, verdict, feed_skipping late]

theorem feed_line (within : lineFeed ∉ line) :
    feed limit (start limit) (line ++ [lineFeed]) =
      (after limit (verdict limit line), [verdict limit line]) := by
  rw [feed_append]
  by_cases fits : line.length ≤ limit
  · rw [feed_short within fits]
    simp [feed, step, verdict, fits]
  · have long := Nat.lt_of_not_le fits
    rw [feed_long within long]
    rcases verdict_long long with ⟨verdict, _⟩ | ⟨verdict, _⟩ <;> simp [verdict, feed, step, after]

theorem readAll_last (within : lineFeed ∉ line) (some : line ≠ []) :
    readAll limit line = [verdict limit line] := by
  unfold readAll
  by_cases fits : line.length ≤ limit
  · have ends : finish (reading line.reverse (limit - line.length)) = frame line.reverse := by
      unfold finish
      split <;> simp_all
    rw [feed_short within fits]
    simp [ends, verdict, fits]
  · have long := Nat.lt_of_not_le fits
    rw [feed_long within long]
    rcases verdict_long long with ⟨verdict, _⟩ | ⟨verdict, _⟩ <;> simp [verdict, finish]

theorem readAll_cons (within : lineFeed ∉ line) :
    readAll limit (line ++ lineFeed :: rest) =
      if verdict limit line = .broken then [.broken]
      else verdict limit line :: readAll limit rest := by
  have whole : line ++ lineFeed :: rest = (line ++ [lineFeed]) ++ rest := by simp
  rw [readAll, whole, feed_append, feed_line within]
  by_cases broken : verdict limit line = .broken
  · simp [broken, after, feed_stopped, finish]
  · have again : after limit (verdict limit line) = start limit := by
      cases verdict : verdict limit line with
      | broken => exact absurd verdict broken
      | line text => rfl
      | tooLong => rfl
    rw [again, if_neg broken]
    rfl

/-- What is found in a stream is what is made of each of its lines, up to the first broken one. -/
theorem readAll_eq (limit : Nat) (stream : List UInt8) :
    readAll limit stream = untilBroken ((linesOf lineFeed stream).map (verdict limit)) := by
  induction stream using lines_induction lineFeed with
  | nil => rfl
  | last line within some =>
      rw [readAll_last within some, linesOf_last within some, List.map_singleton,
        untilBroken_singleton]
  | cons line rest within ih =>
      rw [readAll_cons within, linesOf_cons within, List.map_cons, ih]
      split
      · rename_i broken
        rw [broken]
        rfl
      · rename_i read
        rw [untilBroken_cons read]

/-- A line is too long, and a character of it goes across the end of what is read of it. -/
def Cut (limit : Nat) (line : List Char) : Prop :=
  limit < (octets line).length ∧ ∀ front ∈ line.inits, (octets front).length ≠ limit + 1

instance (limit : Nat) (line : List Char) : Decidable (Cut limit line) :=
  inferInstanceAs (Decidable (_ ∧ _))

def due (limit : Nat) (line : List Char) : Frame :=
  if (octets line).length ≤ limit then .line (String.ofList line) else .tooLong

theorem due_ne_broken (limit : Nat) (line : List Char) : due limit line ≠ .broken := by
  unfold due
  split <;> rintro ⟨⟩

theorem verdict_octets (limit : Nat) (line : List Char) :
    verdict limit (octets line) = if Cut limit line then .broken else due limit line := by
  by_cases fits : (octets line).length ≤ limit
  · have whole : ¬ Cut limit line := fun cut => absurd cut.1 (Nat.not_lt.mpr fits)
    rw [if_neg whole, verdict, due, if_pos fits, if_pos fits, frame_octets]
  · have long := Nat.lt_of_not_le fits
    have read : ((octets line).take (limit + 1)).length = limit + 1 :=
      List.length_take_of_le long
    have broken := frame_broken_iff (List.take_prefix (limit + 1) (octets line))
    rw [read] at broken
    have cut : Cut limit line ↔ frame ((octets line).take (limit + 1)).reverse = .broken := by
      simp [Cut, broken, long, List.mem_inits]
    simp only [verdict, due, if_neg fits, cut]

theorem linesOf_octets (text : List Char) :
    linesOf lineFeed (octets text) = (linesOf '\n' text).map octets := by
  induction text using lines_induction '\n' with
  | nil => rfl
  | last line within some =>
      have bytes : lineFeed ∉ octets line := fun member => within (lineFeed_mem_octets.mp member)
      rw [linesOf_last within some, linesOf_last bytes (octets_eq_nil.not.mpr some),
        List.map_singleton]
  | cons line rest within ih =>
      have bytes : lineFeed ∉ octets line := fun member => within (lineFeed_mem_octets.mp member)
      have whole : octets (line ++ '\n' :: rest) = octets line ++ lineFeed :: octets rest := by
        rw [octets_append, octets_cons]
        rfl
      rw [whole, linesOf_cons within, linesOf_cons bytes, ih, List.map_cons]

/-- The lines of a text are found as they are due to be, up to the first one that is cut. -/
theorem readAll_octets (limit : Nat) (text : List Char) :
    readAll limit (octets text) = untilBroken ((linesOf '\n' text).map fun line =>
      if Cut limit line then .broken else due limit line) := by
  rw [readAll_eq, linesOf_octets, List.map_map]
  congr 2
  funext line
  exact verdict_octets limit line

/-- All lines of a text are found exactly if none of them is cut. -/
theorem readAll_octets_iff (limit : Nat) (text : List Char) :
    readAll limit (octets text) = (linesOf '\n' text).map (due limit) ↔
      ∀ line ∈ linesOf '\n' text, ¬ Cut limit line := by
  rw [readAll_octets, untilBroken_map_iff (due_ne_broken limit)]
  refine forall₂_congr fun line _ => ?_
  split
  · rename_i cut
    exact iff_of_false (due_ne_broken limit line).symm (not_not.mpr cut)
  · rename_i whole
    exact iff_of_true rfl whole

end LineState

end LiveList
