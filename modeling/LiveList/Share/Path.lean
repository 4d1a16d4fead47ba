import LiveList.Text.Lowercase

/-!
Paths as texts: components between separators, which are slashes of either kind.
-/

namespace LiveList.Path

def isSeparator (c : Char) : Bool := c == '/' || c == '\\'

def trimEnd (path : List Char) : List Char := (path.reverse.dropWhile isSeparator).reverse

def lastPart (path : List Char) : List Char :=
  (path.reverse.takeWhile fun c => !isSeparator c).reverse

/-- A path in the form in which nesting is looked for: without separators at the end, in lower
case, and with one slash after it. -/
def normal (path : List Char) : List Char := Text.lower (trimEnd path) ++ ['/']

def overlap (a b : List Char) : Bool :=
  (normal b).isPrefixOf (normal a) || (normal a).isPrefixOf (normal b)

/-- The last place where `part` stands in a text; the empty part stands at its end. -/
def lastIndexOf? (part : List Char) : List Char → Option Nat
  | [] => if part.isEmpty then some 0 else none
  | c :: rest =>
      match lastIndexOf? part rest with
      | some place => some (place + 1)
      | none => if part.isPrefixOf (c :: rest) then some 0 else none

end LiveList.Path
