/-
Decimal literals.

A number with a fraction or an exponent is kept as it was written.  The digits before and behind
the point make one natural number, and the exponent and the place of the point one power of ten.
-/
namespace SqlGuard

/-- The number `± digits / 10 ^ scale`, where `digits` has at most `width` decimal digits. -/
structure Decimal where
  negative : Bool
  digits : Nat
  width : Nat
  scale : Int
deriving DecidableEq

namespace Decimal

/-- The digits at the head of a literal, as a number, with their count and what follows. -/
def leadingDigits (cs : List Char) : Nat × Nat × List Char :=
  let digits := cs.takeWhile Char.isDigit
  (digits.foldl (fun n d => 10 * n + (d.toNat - '0'.toNat)) 0, digits.length,
    cs.drop digits.length)

/-- The exponent at the head of a literal, zero where there is none. -/
def exponent (cs : List Char) : Int :=
  match cs with
  | 'e' :: '-' :: rest | 'E' :: '-' :: rest => -(leadingDigits rest).1
  | 'e' :: '+' :: rest | 'E' :: '+' :: rest => (leadingDigits rest).1
  | 'e' :: rest | 'E' :: rest => (leadingDigits rest).1
  | _ => 0

/-- The number of a literal; nothing for one without digits, such as an infinity. -/
def ofLiteral? (literal : String) : Option Decimal :=
  let cs := literal.toList
  let negative := cs.head? == some '-'
  let (whole, n, rest) := leadingDigits (if negative then cs.tail else cs)
  if n = 0 then
    none
  else
    let (fraction, places, rest) := match rest with
      | '.' :: rest => leadingDigits rest
      | rest => (0, 0, rest)
    some
      { negative
        digits := whole * Nat.pow 10 places + fraction
        width := n + places
        scale := places - exponent rest }

end Decimal

end SqlGuard
