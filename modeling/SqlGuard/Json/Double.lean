/-
Doubles: how they compare, and how they are written.

A number with a fraction or an exponent is held in double precision.  A finite double is a whole
number of units, the least positive double being one, so that a magnitude is a natural number:
`nearest?` finds the one for a quotient, with at most 53 significant bits.

A double is written with the fewest decimal digits that lead back to it, and with the nearest
ones among those.  They are found by trying one digit more at a time; seventeen are always enough.
A point goes between them as long as the number is neither too large nor too small for that.
-/
import SqlGuard.Json.Decimal
import SqlGuard.Text.Basic

namespace SqlGuard

/-- A quotient rounded to a natural number; a half goes to the even neighbour. -/
def roundQuotient (num den : Nat) : Nat :=
  let floor := num / den
  let doubled := 2 * (num % den)
  if doubled < den || (doubled == den && floor % 2 == 0) then floor else floor + 1

namespace Double

/-! ### The nearest double -/

/-- The units in the number one. -/
def unitsInOne : Nat :=
  Nat.pow 2 1074

/-- The first number of units that is beyond all finite doubles. -/
def overflow : Nat :=
  Nat.pow 2 2098

/-- The double nearest to a quotient, in units; nothing if that is no finite one. -/
def nearest? (num den : Nat) : Option Nat :=
  let excess := Nat.log2 (num * unitsInOne / den) - 52
  let units := roundQuotient (num * unitsInOne) (den * Nat.pow 2 excess) * Nat.pow 2 excess
  if units < overflow then some units else none

/-- The double nearest to the magnitude of a decimal, in units.  A magnitude below `10 ^ -400`
rounds to zero and one above `10 ^ 400` is too large, so the power of ten is not computed then. -/
def ofDecimal? (d : Decimal) : Option Nat :=
  if d.digits = 0 ∨ (d.width + 400 : Int) < d.scale then some 0
  else if d.scale < -400 then none
  else nearest? (d.digits * Nat.pow 10 (-d.scale).toNat) (Nat.pow 10 d.scale.toNat)

/-! ### Comparison -/

/-- Whether the double that a literal denotes is zero. -/
def isZero (literal : String) : Bool :=
  match Decimal.ofLiteral? literal with
  | some d => ofDecimal? d == some 0
  | none => false

/-- Whether the double that a literal denotes is less than a natural number.  An infinity is less
than all or none of them, by its sign, and what is not a number is less than none. -/
def isBelow (literal : String) (n : Nat) : Bool :=
  match Decimal.ofLiteral? literal with
  | some d =>
    match ofDecimal? d with
    | some units => (d.negative && units != 0) || units < n * unitsInOne
    | none => d.negative
  | none => literal == "-Infinity"

/-! ### The digits -/

/-- How many digits a double has before the point, a negative number if zeros follow the point.
The factor makes the least double more than one. -/
def wholeDigits (units : Nat) : Int :=
  (Nat.toDigits 10 (units * Nat.pow 10 400 / unitsInOne)).length - 400

/-- The number with `places` digits behind the point that is nearest to a double, without the
point, if that number leads back to the double.  If it does not, one of its neighbours may. -/
def roundTo? (units : Nat) (places : Int) : Option Nat :=
  let num := units * Nat.pow 10 places.toNat
  let den := unitsInOne * Nat.pow 10 (-places).toNat
  [roundQuotient num den, num / den, num / den + 1].find? fun n =>
    nearest? (n * Nat.pow 10 (-places).toNat) (Nat.pow 10 places.toNat) == some units

/-- The fewest digits that lead back to a positive double, and how many of them stand before the
point. -/
def shortest (units : Nat) : Text × Int :=
  let found := (List.range' 1 17).findSome? fun (count : Nat) =>
    let places := count - wholeDigits units
    (roundTo? units places).map fun n => (Nat.toDigits 10 n, places)
  match found with
  | some (digits, places) =>
    ((digits.reverse.dropWhile (· == '0')).reverse, digits.length - places)
  | none => ([], 0)

/-! ### Notation -/

/-- An exponent, with a sign and two digits at least. -/
def exponentText (e : Int) : Text :=
  let digits := Nat.toDigits 10 e.natAbs
  'e' :: (if e < 0 then '-' else '+') :: (List.replicate (2 - digits.length) '0' ++ digits)

/-- Digits, `point` of them before the point.  The point stands among them or at a few zeros'
distance; farther away it stands behind the first digit, and an exponent says where it belongs. -/
def layOut (digits : Text) (point : Int) : Text :=
  if point ≤ -4 ∨ 16 < point then
    digits.take 1 ++ (if digits.length ≤ 1 then [] else '.' :: digits.drop 1) ++
      exponentText (point - 1)
  else if point ≤ 0 then
    '0' :: '.' :: (List.replicate (-point).toNat '0' ++ digits)
  else if digits.length ≤ point.toNat then
    digits ++ List.replicate (point.toNat - digits.length) '0' ++ ['.', '0']
  else
    digits.take point.toNat ++ '.' :: digits.drop point.toNat

/-- A magnitude as it is written; one that is no finite double is infinite. -/
def magnitudeText : Option Nat → Text
  | none => "inf".toList
  | some 0 => "0.0".toList
  | some units => layOut (shortest units).1 (shortest units).2

/-- The double that a literal denotes, as it is written. -/
def text (literal : String) : Text :=
  match Decimal.ofLiteral? literal with
  | some d => (if d.negative then ['-'] else []) ++ magnitudeText (ofDecimal? d)
  | none =>
    match literal with
    | "Infinity" => "inf".toList
    | "-Infinity" => "-inf".toList
    | _ => "nan".toList

end Double

end SqlGuard
