/-
Code units, and the digits they are written with.

Escapes of every format in use here are hexadecimal; the digits are written in lower case and read
in either.  A character beyond the basic plane takes two units of sixteen bits, a high half and a
low half.  A half without its partner is no character, so that no text can hold it.  What stands in
its place is not settled here: `lone` says it for each half.
-/
import SqlGuard.Text.Basic

namespace SqlGuard

/-! ### Hexadecimal digits -/

/-- The value of a hexadecimal digit. -/
def hexValue? (c : Char) : Option Nat :=
  if c.isDigit then some (c.toNat - '0'.toNat)
  else if 'a' ≤ c && c ≤ 'f' then some (c.toNat - 'a'.toNat + 10)
  else if 'A' ≤ c && c ≤ 'F' then some (c.toNat - 'A'.toNat + 10)
  else none

/-- The hexadecimal digit of a value below sixteen. -/
def hexDigit (n : Nat) : Char :=
  if n < 10 then Char.ofNat ('0'.toNat + n) else Char.ofNat ('a'.toNat + (n - 10))

/-- The last `width` hexadecimal digits of a number. -/
def hexDigits : Nat → Nat → List Char
  | 0, _ => []
  | width + 1, n => hexDigits width (n / 16) ++ [hexDigit (n % 16)]

/-! ### Sixteen-bit units -/

/-- Whether a unit is the first half of a pair. -/
def isHighHalf (unit : Nat) : Bool :=
  0xD800 ≤ unit && unit ≤ 0xDBFF

/-- Whether a unit is the second half of a pair. -/
def isLowHalf (unit : Nat) : Bool :=
  0xDC00 ≤ unit && unit ≤ 0xDFFF

/-- The character of a code point. -/
def codeChar (lone : Nat → Char) (code : Nat) : Char :=
  if isHighHalf code || isLowHalf code then lone code else Char.ofNat code

/-- A text while it is read unit by unit. -/
structure UnitReader where
  /-- The characters, last one first. -/
  chars : Text := []
  /-- A high half that waits for its partner. -/
  half : Option Nat := none

namespace UnitReader

variable (lone : Nat → Char)

/-- The characters, with what stands for a half that found no partner. -/
def settled (p : UnitReader) : Text :=
  match p.half with
  | none => p.chars
  | some high => lone high :: p.chars

/-- Reads a character that is not written as units. -/
def push (p : UnitReader) (c : Char) : UnitReader :=
  { chars := c :: p.settled lone }

/-- Reads a unit; a high half and the low half right behind it make one character. -/
def pushUnit (p : UnitReader) (unit : Nat) : UnitReader :=
  match p.half with
  | some high =>
    if isLowHalf unit then
      { chars := Char.ofNat (0x10000 + (high - 0xD800) * 0x400 + (unit - 0xDC00)) :: p.chars }
    else if isHighHalf unit then
      { chars := p.settled lone, half := some unit }
    else
      p.push lone (codeChar lone unit)
  | none =>
    if isHighHalf unit then { p with half := some unit } else p.push lone (codeChar lone unit)

/-- The text that was read. -/
def text (p : UnitReader) : Text :=
  (p.settled lone).reverse

end UnitReader

end SqlGuard
