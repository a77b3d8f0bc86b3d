/-
Integers in text.

An integer may have blanks around it, a sign in front, and single underscores between its
digits, which may be the decimal digits of any script.  The four separator controls, blank
elsewhere, are not accepted around an integer.
-/
import SqlGuard.Text.Quoted

namespace SqlGuard

/-! ### Decimal digits -/

-- A script that has decimal digits has ten of them in a row, so the table holds only the zeros.

/-- The code points of the digit zero, one for each run of ten decimal digits. -/
def digitZeros : List Nat :=
  [0x30, 0x660, 0x6F0, 0x7C0, 0x966, 0x9E6, 0xA66, 0xAE6, 0xB66, 0xBE6, 0xC66, 0xCE6, 0xD66, 0xDE6,
   0xE50, 0xED0, 0xF20, 0x1040, 0x1090, 0x17E0, 0x1810, 0x1946, 0x19D0, 0x1A80, 0x1A90, 0x1B50,
   0x1BB0, 0x1C40, 0x1C50, 0xA620, 0xA8D0, 0xA900, 0xA9D0, 0xA9F0, 0xAA50, 0xABF0, 0xFF10, 0x104A0,
   0x10D30, 0x11066, 0x110F0, 0x11136, 0x111D0, 0x112F0, 0x11450, 0x114D0, 0x11650, 0x116C0,
   0x11730, 0x118E0, 0x11950, 0x11C50, 0x11D50, 0x11DA0, 0x16A60, 0x16AC0, 0x16B50, 0x1D7CE,
   0x1D7D8, 0x1D7E2, 0x1D7EC, 0x1D7F6, 0x1E140, 0x1E2F0, 0x1E950, 0x1FBF0]

/-- The value of a decimal digit, and nothing for any other character. -/
def decimalValue? (c : Char) : Option Nat :=
  (digitZeros.find? fun first => first ≤ c.toNat && c.toNat < first + 10).map (c.toNat - ·)

/-! ### Errors -/

/-- Why a text is not read as an integer. -/
inductive IntegerError where
  /-- The text is not an integer. -/
  | malformed (literal : Text)
  /-- The text has more digits than are converted. -/
  | tooManyDigits (count : Nat)
deriving DecidableEq

/-- The most digits that are converted. -/
def integerDigitLimit : Nat :=
  4300

/-- How much of a malformed literal a message shows, quotes and escapes included. -/
def shownLength : Nat :=
  200

/-- The text of an error. -/
def IntegerError.message : IntegerError → String
  | malformed literal =>
    "invalid literal for int() with base 10: " ++ String.ofList (literal.quoted.take shownLength)
  | tooManyDigits count =>
    s!"Exceeds the limit ({integerDigitLimit} digits) for integer string conversion: " ++
      s!"value has {count} digits; use sys.set_int_max_str_digits() to increase the limit"

/-- Whether a blank may stand around an integer. -/
def isIntegerBlank (c : Char) : Bool :=
  isBlank c && !(0x1C ≤ c.toNat && c.toNat ≤ 0x1F)

/-- Reads digits with single underscores between them, as far as they go.  Gives the value, the
number of digits and the rest; nothing if an underscore does not stand between two digits.
`separable` says whether an underscore may come next. -/
def digitRun (value count : Nat) (separable : Bool) : Text → Option (Nat × Nat × Text)
  | [] => if separable then some (value, count, []) else none
  | c :: rest =>
    match decimalValue? c with
    | some d => digitRun (10 * value + d) (count + 1) true rest
    | none =>
      if c == '_' then
        if separable then digitRun value count false rest else none
      else if separable then some (value, count, c :: rest)
      else none

/-- The sign in front of a literal, and the rest. -/
def takeSign : Text → Bool × Text
  | '-' :: rest => (true, rest)
  | '+' :: rest => (false, rest)
  | rest => (false, rest)

/-- Reads a text as an integer. -/
def readInteger (s : Text) : Except IntegerError Int :=
  let (negative, digits) := takeSign (s.dropWhile isIntegerBlank)
  match digitRun 0 0 false digits with
  | none => .error (.malformed s)
  | some (value, count, rest) =>
    if integerDigitLimit < count then .error (.tooManyDigits count)
    else if rest.all isIntegerBlank then .ok (if negative then -value else value)
    else .error (.malformed s)

end SqlGuard
