/-!
Lines in a stream of bytes. Bytes arrive in pieces of any size; a line is complete with its line
feed, or with the end of the stream. A line that is too long is skipped as a whole.
-/

namespace LiveList

inductive Frame where
  | line (text : String)
  | tooLong
  /-- Bytes that are no UTF-8. Nothing is read after them. -/
  | broken
  deriving DecidableEq, Repr

inductive LineState where
  /-- The bytes of the line so far, last first, and how many more it may have. -/
  | reading (bytes : List UInt8) (room : Nat)
  /-- In a line that is too long. -/
  | skipping
  | stopped
  deriving DecidableEq, Repr

namespace LineState

def lineFeed : UInt8 := 10

def frame (bytes : List UInt8) : Frame :=
  match String.fromUTF8? ⟨bytes.reverse.toArray⟩ with
  | some text => .line text
  | none => .broken

def start (limit : Nat) : LineState := reading [] limit

def after (limit : Nat) : Frame → LineState
  | .line _ | .tooLong => start limit
  | .broken => stopped

/-- Reads one byte. A line with one byte more than it may have is too long, unless its bytes so far
are no UTF-8. -/
def step (limit : Nat) (state : LineState) (byte : UInt8) : LineState × Option Frame :=
  match state with
  | stopped => (stopped, none)
  | skipping => if byte = lineFeed then (start limit, some .tooLong) else (skipping, none)
  | reading bytes room =>
      if byte = lineFeed then (after limit (frame bytes), some (frame bytes))
      else
        match room with
        | room + 1 => (reading (byte :: bytes) room, none)
        -- Only a line feed had room left, so this byte is one too many.
        | 0 =>
            match frame (byte :: bytes) with
            | .broken => (stopped, some .broken)
            | _ => (skipping, none)

def feed (limit : Nat) : LineState → List UInt8 → LineState × List Frame
  | state, [] => (state, [])
  | state, byte :: rest =>
      let (state, found) := step limit state byte
      let (state, more) := feed limit state rest
      (state, found.toList ++ more)

def finish : LineState → Option Frame
  | stopped | reading [] _ => none
  | skipping => some .tooLong
  | reading bytes _ => some (frame bytes)

def readAll (limit : Nat) (bytes : List UInt8) : List Frame :=
  let (state, found) := feed limit (start limit) bytes
  found ++ state.finish.toList

theorem feed_append (limit : Nat) (state : LineState) (first second : List UInt8) :
    feed limit state (first ++ second) =
      ((feed limit (feed limit state first).1 second).1,
        (feed limit state first).2 ++ (feed limit (feed limit state first).1 second).2) := by
  induction first generalizing state with
  | nil => simp [feed]
  | cons byte rest ih => simp [feed, ih]

end LineState

end LiveList
