/-!
Regular expressions over characters and the search for a match. A match is a pair of places in the
text; the search keeps, for each place, whether some match of the expression so far can end there.
Which of several matches is preferred plays no part.
-/

namespace LiveList

/-- A regular expression. An assertion looks at the characters on both sides of a place and takes
none. -/
inductive Regex where
  | assertion (holds : Option Char → Option Char → Bool)
  | one (accepts : Char → Bool)
  | sequence (first second : Regex)
  | either (left right : Regex)
  /-- At least `least` matches in a row, and no more than `most` if there is a bound. -/
  | repeated (body : Regex) (least : Nat) (most : Option Nat)

namespace Regex

/-- What matches between any two characters without taking one. -/
def nothing : Regex := .assertion fun _ _ => true

def concat : List Regex → Regex
  | [] => nothing
  | [single] => single
  | first :: rest => .sequence first (concat rest)

def anyOf : List Regex → Regex
  | [] => .one fun _ => false
  | [single] => single
  | first :: rest => .either first (anyOf rest)

def textStart : Regex := .assertion fun before _ => before.isNone

def textEnd : Regex := .assertion fun _ after => after.isNone

def placesFrom (before : Option Char) : List Char → List (Option Char × Option Char)
  | [] => [(before, none)]
  | c :: rest => (before, some c) :: placesFrom (some c) rest

def places (text : List Char) : List (Option Char × Option Char) := placesFrom none text

/-- Repeats a step, and stops early once it changes nothing any more. -/
def settle (step : List Bool → List Bool) : Nat → List Bool → List Bool
  | 0, marks => marks
  | count + 1, marks =>
      let next := step marks
      if next = marks then marks else settle step count next

def joinMarks (left right : List Bool) : List Bool := left.zipWith (· || ·) right

/-- The places where a match that starts at a marked place can end. -/
def advance (places : List (Option Char × Option Char)) : Regex → List Bool → List Bool
  | .assertion holds, marks =>
      marks.zipWith (fun mark place => mark && holds place.1 place.2) places
  | .one accepts, marks =>
      false :: (marks.zipWith (fun mark place => mark && place.2.any accepts) places).dropLast
  | .sequence first second, marks => advance places second (advance places first marks)
  | .either left right, marks => joinMarks (advance places left marks) (advance places right marks)
  | .repeated body least most, marks =>
      let reached := settle (fun marks => advance places body marks) least marks
      -- After as many rounds as there are places nothing new can be reached.
      let rounds := match most with
        | some most => most - least
        | none => places.length
      settle (fun marks => joinMarks marks (advance places body marks)) rounds reached

def found (regex : Regex) (text : List Char) : Bool :=
  let all := places text
  (advance all regex (all.map fun _ => true)).any id

end Regex

end LiveList
