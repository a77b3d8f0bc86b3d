/-
Percent escapes, in addresses and in forms.

An escape is a percent sign and two hexadecimal digits, and stands for a byte.  A percent sign
that is not followed by two digits stands for itself.  In a form a plus sign is a space.
-/
import SqlGuard.Wire.Utf8

namespace SqlGuard.Percent

/-- The percent sign as a byte. -/
def sign : UInt8 :=
  0x25

/-- The value of a byte that is a hexadecimal digit. -/
def hexByte? (b : UInt8) : Option Nat :=
  hexValue? (Char.ofNat b.toNat)

/-- What follows a percent sign, decoded together with the sign. -/
def unescape (piece : Bytes) : Bytes :=
  match piece with
  | high :: low :: rest =>
    match hexByte? high, hexByte? low with
    | some h, some l => UInt8.ofNat (16 * h + l) :: rest
    | _, _ => sign :: piece
  | _ => sign :: piece

/-- The bytes that escaped bytes stand for. -/
def decode (bytes : Bytes) : Bytes :=
  match bytes.splitOn sign with
  | [] => []
  | first :: later => first ++ later.flatMap unescape

/-- A byte as an escape. -/
def escape (b : UInt8) : Text :=
  '%' :: (hexDigits 2 b.toNat).map Char.toUpper

/-! ### Forms -/

/-- A name or a value of a form; bytes that are no text are escaped again. -/
def component (s : Text) : Text :=
  let spaced := s.map fun c => if c == '+' then ' ' else c
  Utf8.decodeWith (fun junk => junk.flatMap escape) (decode (Utf8.encode spaced))

/-- One field of a form: name and value stand on the two sides of the first equals sign. -/
def field (s : Text) : Text × Text :=
  match Text.breakAt? ['='] s with
  | some (name, value) => (component name, component value)
  | none => (component s, [])

/-- The fields of a form. -/
def fields (s : Text) : List (Text × Text) :=
  (s.pieces (· == '&')).map field

end SqlGuard.Percent
