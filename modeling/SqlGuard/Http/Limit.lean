/-
Limits on lengths.

A limit is a setting, and a setting may hold a value of any type.  An integer, a double and a
truth value can be compared with a length, and each exactly, however large; anything else cannot,
and that is noticed only when a length is there to be compared.
-/
import SqlGuard.Json.Basic
import SqlGuard.Log

namespace SqlGuard

/-- A limit on a length. -/
inductive Limit where
  /-- Every length is allowed. -/
  | none
  | count (n : Int)
  /-- A truth value, which counts as one or zero. -/
  | flag (b : Bool)
  /-- The double nearest to a number with a fraction or an exponent. -/
  | double (literal : String)
  /-- A value that is no number. -/
  | unusable (typeName : String)
deriving DecidableEq

namespace Limit

/-- The limit that a value sets; null sets none. -/
def ofJson : Json → Limit
  | .null => none
  | .bool b => flag b
  | .int n => count n
  | .real literal => double literal
  | v => unusable v.typeName

/-- The limit that a value sets where a value that holds nothing sets none. -/
def ofTruthy (v : Json) : Limit :=
  if v.isTruthy then ofJson v else none

/-- Whether a length is beyond the limit; the name of the limit's type if it is no number. -/
def isExceeded (length : Nat) : Limit → Except String Bool
  | none => .ok false
  | count n => .ok (n < length)
  | flag b => .ok (b.toNat < length)
  | double literal => .ok (Double.isBelow literal length)
  | unusable typeName => .error typeName

/-- The limit as messages show it. -/
def shown : Limit → String
  | none => "None"
  | count n => toString n
  | flag b => spelled b
  | double literal => String.ofList (Double.text literal)
  | unusable typeName => typeName

end Limit

end SqlGuard
