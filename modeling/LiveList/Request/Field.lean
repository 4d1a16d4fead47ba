import LiveList.Decimal.Layout
import LiveList.Json.Basic
import LiveList.Property
import LiveList.Text.Category

/-!
Readers for the fields of a request. A reader gives the value that a field holds, or says what was
found there and what was expected.
-/

namespace LiveList.Field

abbrev Reader (Value : Type) := Json → Except String Value

def naming : Json → String
  | .null => "null"
  | .bool value => "boolean `" ++ (if value then "true" else "false") ++ "`"
  | .integer value => "integer `" ++ toString value ++ "`"
  | .float value => "floating point `" ++ Decimal.tagged value ++ "`"
  | .string value => "string " ++ Text.quote value
  | .list _ => "sequence"
  | .object _ => "map"

def wrongType (found : Json) (expected : String) : String :=
  "invalid type: " ++ naming found ++ ", expected " ++ expected

def wrongValue (found : Json) (expected : String) : String :=
  "invalid value: " ++ naming found ++ ", expected " ++ expected

def text : Reader String
  | .string value => .ok value
  | found => .error (wrongType found "a string")

def flag : Reader Bool
  | .bool value => .ok value
  | found => .error (wrongType found "a boolean")

def whole (expected : String) (low high : Int) : Reader Int
  | .integer value =>
      if low ≤ value ∧ value < high then .ok value
      else .error (wrongValue (.integer value) expected)
  | found => .error (wrongType found expected)

def word32 : Reader Nat := fun found => (whole "u32" 0 UInt32.size found).map Int.toNat

def word64 : Reader Nat := fun found => (whole "u64" 0 UInt64.size found).map Int.toNat

def signed64 : Reader Int := whole "i64" (-signedLimit) signedLimit

/-- Numbers of 32 bits, in ascending order and each of them once. -/
def wordSet : Reader (List Nat)
  | .list items => (items.mapM word32).map PropertySet.ofIds
  | found => .error (wrongType found "a sequence")

end LiveList.Field
