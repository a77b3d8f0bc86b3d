/-
Bytes as UTF-8 text.

Decoding never fails: it divides the bytes into characters and junk, where junk is a byte that
starts no character, or the longest beginning of a character that is not completed.  A caller
refuses junk, replaces it, or writes it in some other way.

Halves of a pair are no characters in UTF-8, but a reader may be told what stands for them, and
then lets them pass.
-/
import SqlGuard.Text.Units

namespace SqlGuard

/-- A sequence of bytes. -/
abbrev Bytes := List UInt8

namespace Utf8

/-- What stands for bytes that are no text. -/
def replacement : Char :=
  '\uFFFD'

/-- A stretch of bytes, decoded. -/
inductive Piece where
  | char (c : Char)
  | junk (bytes : Bytes)
deriving DecidableEq

/-- A character of which some bytes were read. -/
structure Pending where
  /-- The bytes, last one first. -/
  taken : Bytes
  /-- The bits that they hold. -/
  code : Nat
  /-- How many bytes are still to come. -/
  owed : Nat
  /-- The least value of the next byte. -/
  low : Nat := 0x80
  /-- The greatest value of the next byte. -/
  high : Nat := 0xBF

/-- Where decoding stands: the character that was begun, and the pieces, last one first. -/
structure State where
  pending : Option Pending := none
  pieces : List Piece := []

/-- Reads the first byte of a character. -/
def State.start (halves : Option (Nat → Char)) (pieces : List Piece) (b : UInt8) : State :=
  let n := b.toNat
  let begin (code owed low high : Nat) : State :=
    { pending := some { taken := [b], code, owed, low, high }, pieces }
  if n ≤ 0x7F then { pieces := .char (Char.ofNat n) :: pieces }
  else if 0xC2 ≤ n && n ≤ 0xDF then begin (n - 0xC0) 1 0x80 0xBF
  else if n = 0xE0 then begin 0 2 0xA0 0xBF
  else if n = 0xED then begin 0xD 2 0x80 (if halves.isSome then 0xBF else 0x9F)
  else if 0xE1 ≤ n && n ≤ 0xEF then begin (n - 0xE0) 2 0x80 0xBF
  else if n = 0xF0 then begin 0 3 0x90 0xBF
  else if 0xF1 ≤ n && n ≤ 0xF3 then begin (n - 0xF0) 3 0x80 0xBF
  else if n = 0xF4 then begin 4 3 0x80 0x8F
  else { pieces := .junk [b] :: pieces }

/-- Reads one byte. -/
def State.next (halves : Option (Nat → Char)) (state : State) (b : UInt8) : State :=
  match state.pending with
  | none => State.start halves state.pieces b
  | some p =>
    if p.low ≤ b.toNat && b.toNat ≤ p.high then
      let code := 64 * p.code + (b.toNat - 0x80)
      if p.owed = 1 then
        let c := match halves with
          | some lone => codeChar lone code
          | none => Char.ofNat code
        { pieces := .char c :: state.pieces }
      else
        { pending := some { taken := b :: p.taken, code, owed := p.owed - 1 }
          pieces := state.pieces }
    else
      State.start halves (.junk p.taken.reverse :: state.pieces) b

/-- The pieces of a sequence of bytes. -/
def pieces (halves : Option (Nat → Char)) (bytes : Bytes) : List Piece :=
  let state := bytes.foldl (State.next halves) {}
  match state.pending with
  | none => state.pieces.reverse
  | some p => (.junk p.taken.reverse :: state.pieces).reverse

/-- The text, if there is no junk. -/
def decode? (halves : Option (Nat → Char)) (bytes : Bytes) : Option Text :=
  (pieces halves bytes).mapM fun
    | .char c => some c
    | .junk _ => none

/-- The text, with `write` saying what stands for junk. -/
def decodeWith (write : Bytes → Text) (bytes : Bytes) : Text :=
  (pieces none bytes).flatMap fun
    | .char c => [c]
    | .junk bs => write bs

/-- The text, with the replacement character for each piece of junk. -/
def decodeLossy (bytes : Bytes) : Text :=
  decodeWith (fun _ => [replacement]) bytes

/-- The bytes of a text. -/
def encode (s : Text) : Bytes :=
  (String.ofList s).toUTF8.toList

end Utf8

end SqlGuard
