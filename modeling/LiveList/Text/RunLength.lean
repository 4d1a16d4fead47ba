/-!
Run-length texts: a value for every code point, written as the lengths of the stretches with one
value. A stretch is a decimal length, left out when it is one, and a code of fixed width.
-/

namespace LiveList.Text

/-- The stretches written in a text: first code point and value of each. `start` is the code point
reached, `length` what was read of a length, `code` what was read of a code, last character
first. -/
def runsFrom {α : Type} (width : Nat) (value : List Char → α) :
    Nat → Nat → List Char → List Char → List (Nat × α)
  | _, _, _, [] => []
  | start, length, code, c :: rest =>
      if c.isDigit then runsFrom width value start (length * 10 + (c.toNat - 48)) code rest
      else
        let code := c :: code
        if code.length = width then
          let length := if length = 0 then 1 else length
          (start, value code.reverse) :: runsFrom width value (start + length) 0 [] rest
        else runsFrom width value start length code rest

def readRuns {α : Type} (width : Nat) (value : List Char → α) (text : String) : List (Nat × α) :=
  runsFrom width value 0 0 [] text.toList

/-- The value of the last stretch that starts at or before a code point. -/
def valueAt {α : Type} (default : α) : List (Nat × α) → Nat → α
  | [], _ => default
  | (start, value) :: rest, code => if code < start then default else valueAt value rest code

end LiveList.Text
