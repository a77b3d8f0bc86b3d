/-
Which encoding a body is in.

A body does not say how it is encoded.  A byte-order mark settles it; without one, the first two
characters of a value are ASCII, so the places of the zero bytes among the first four show how
wide a character is and which of its bytes comes first.  Halves of a pair are let through, with
`lone` saying what stands for them.
-/
import SqlGuard.Wire.Utf8

namespace SqlGuard

/-- The order of the bytes in a number. -/
inductive ByteOrder where
  | big
  | little
deriving DecidableEq

/-- The encoding of a text. -/
inductive Encoding where
  | utf8
  | utf16 (order : ByteOrder)
  | utf32 (order : ByteOrder)
deriving DecidableEq

namespace Encoding

/-- The encoding of a body that starts with a byte-order mark, and the body without it. -/
def marked? : Bytes → Option (Encoding × Bytes)
  | 0x00 :: 0x00 :: 0xFE :: 0xFF :: rest => some (utf32 .big, rest)
  | 0xFF :: 0xFE :: 0x00 :: 0x00 :: rest => some (utf32 .little, rest)
  | 0xFE :: 0xFF :: rest => some (utf16 .big, rest)
  | 0xFF :: 0xFE :: rest => some (utf16 .little, rest)
  | 0xEF :: 0xBB :: 0xBF :: rest => some (utf8, rest)
  | _ => none

/-- The encoding that the zero bytes of a body show. -/
def unmarked : Bytes → Encoding
  | a :: b :: c :: d :: _ =>
    if a == 0 then (if b == 0 then utf32 .big else utf16 .big)
    else if b == 0 then (if c == 0 && d == 0 then utf32 .little else utf16 .little)
    else utf8
  | [a, b] => if a == 0 then utf16 .big else if b == 0 then utf16 .little else utf8
  | _ => utf8

/-- The encoding of a body, and the body without its byte-order mark. -/
def detect (body : Bytes) : Encoding × Bytes :=
  (marked? body).getD (unmarked body, body)

/-- Two bytes as a number. -/
def pair (order : ByteOrder) (a b : UInt8) : Nat :=
  match order with
  | .big => a.toNat * 256 + b.toNat
  | .little => b.toNat * 256 + a.toNat

/-- Reads two bytes a unit; nothing if a byte is left over. -/
def decode16 (lone : Nat → Char) (order : ByteOrder) (reader : UnitReader) : Bytes → Option Text
  | [] => some (reader.text lone)
  | [_] => none
  | a :: b :: rest => decode16 lone order (reader.pushUnit lone (pair order a b)) rest

/-- Reads four bytes a character; nothing if bytes are left over or a number is too large. -/
def decode32 (lone : Nat → Char) (order : ByteOrder) (chars : Text) : Bytes → Option Text
  | [] => some chars.reverse
  | a :: b :: c :: d :: rest =>
    let code := match order with
      | .big => pair .big a b * 65536 + pair .big c d
      | .little => pair .little c d * 65536 + pair .little a b
    if code < 0x110000 then decode32 lone order (codeChar lone code :: chars) rest else none
  | _ => none

/-- The text that bytes encode. -/
def decode? (lone : Nat → Char) : Encoding → Bytes → Option Text
  | utf8, bytes => Utf8.decode? (some lone) bytes
  | utf16 order, bytes => decode16 lone order {} bytes
  | utf32 order, bytes => decode32 lone order [] bytes

/-- The text of a body. -/
def bodyText? (lone : Nat → Char) (body : Bytes) : Option Text :=
  let (encoding, bytes) := detect body
  encoding.decode? lone bytes

end Encoding

end SqlGuard
