/-!
Blank characters: the code points that Unicode lists as White_Space. Trimming and splitting of
names, numbers and search terms all use this one class.
-/

namespace LiveList.Text

/-- Unicode's White_Space: the ASCII blanks, next line, the no-break space and the typographic
spaces. The zero-width space is not blank. -/
def isBlank (c : Char) : Bool :=
  let code := c.toNat
  (9 ≤ code && code ≤ 13) || code == 0x20 || code == 0x85 || code == 0xA0 || code == 0x1680 ||
    (0x2000 ≤ code && code ≤ 0x200A) || code == 0x2028 || code == 0x2029 || code == 0x202F ||
    code == 0x205F || code == 0x3000

def trimStart (text : List Char) : List Char :=
  text.dropWhile isBlank

def trimEnd (text : List Char) : List Char :=
  (text.reverse.dropWhile isBlank).reverse

def trim (text : List Char) : List Char :=
  trimEnd (trimStart text)

/-- The blank-separated words of a text, in order; no word is empty. The accumulator is the word
being read, last character first. -/
def wordsFrom : List Char → List Char → List (List Char)
  | word, [] => if word.isEmpty then [] else [word.reverse]
  | word, c :: rest =>
      if isBlank c then
        if word.isEmpty then wordsFrom [] rest else word.reverse :: wordsFrom [] rest
      else wordsFrom (c :: word) rest

def words (text : List Char) : List (List Char) :=
  wordsFrom [] text

/-- The parts of a list between separators. There is one more part than there are separators, and
parts may be empty. -/
def split {Unit : Type} (isSeparator : Unit → Bool) : List Unit → List (List Unit)
  | [] => [[]]
  | unit :: rest =>
      if isSeparator unit then [] :: split isSeparator rest
      else
        match split isSeparator rest with
        | [] => [[unit]]
        | part :: parts => (unit :: part) :: parts

end LiveList.Text
