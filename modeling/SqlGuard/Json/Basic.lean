/-
Values of the request format.

A value is what a client may send and what the service answers.  Whole numbers are kept as
integers of any size.  A number with a fraction or an exponent is kept as it was written, and
stands for the double nearest to it: whatever compares or shows the number takes that double.  The
members of an object keep their order, because the first member at fault is the one that is
reported.
-/
import SqlGuard.Json.Double

namespace SqlGuard

/-- A value of the request format. -/
inductive Json where
  | null
  | bool (value : Bool)
  | int (value : Int)
  | real (literal : String)
  | str (value : String)
  | arr (items : List Json)
  | obj (members : List (String × Json))
deriving Inhabited

namespace Json

/-! ### Members of an object -/

/-- Sets a member.  A key that is already there keeps its place and takes the new value. -/
def setMember (key : String) (value : Json) : List (String × Json) → List (String × Json)
  | [] => [(key, value)]
  | (k, v) :: rest =>
    if k = key then (key, value) :: rest else (k, v) :: setMember key value rest

/-- The member of an object with a given key. -/
def member? (key : String) : Json → Option Json
  | obj members => members.lookup key
  | _ => none

/-- The member with a given key, and null where there is none. -/
def memberD (key : String) (v : Json) : Json :=
  (v.member? key).getD null

/-! ### What a value holds -/

/-- Whether a value holds something: it is not null, false, zero or empty. -/
def isTruthy : Json → Bool
  | null => false
  | bool b => b
  | int n => n != 0
  | real literal => !Double.isZero literal
  | str s => !s.isEmpty
  | arr items => !items.isEmpty
  | obj members => !members.isEmpty

/-- The values that a value holds: the characters of a text, the items of a list, the keys of an
object.  Nothing for a value that is not made of others. -/
def elements? : Json → Option (List Json)
  | str s => some (s.toList.map fun c => str (String.singleton c))
  | arr items => some items
  | obj members => some (members.map fun m => str m.1)
  | _ => none

/-- The name of a value's type, as it appears in error messages. -/
def typeName : Json → String
  | null => "NoneType"
  | bool _ => "bool"
  | int _ => "int"
  | real _ => "float"
  | str _ => "str"
  | arr _ => "list"
  | obj _ => "dict"

end Json

end SqlGuard
