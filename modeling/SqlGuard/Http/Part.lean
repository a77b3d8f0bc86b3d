/-
Parts of the page.

A client may ask for a range of the bytes of the page, or for the page on a condition.  A range is
given by its first and last byte, by its first byte alone, or by the number of bytes at the end.
Exactly one range is served; one that is not there at all cannot be.

A condition names tags of the page that the client knows.  The tag changes with every delivery of
the service, so none that a client names is that of the page, and only the star stands for it.
-/
import SqlGuard.Http.Request

namespace SqlGuard

/-! ### Ranges -/

/-- A range of bytes. -/
inductive ByteRange where
  /-- The bytes from `start` on, up to `stop` or to the end. -/
  | span (start : Nat) (stop : Option Nat)
  /-- The given number of bytes at the end. -/
  | suffix (count : Nat)
deriving DecidableEq

namespace ByteRange

/-- A number in digits. -/
def natural? (digits : Text) : Option Nat :=
  if Json.isDigits digits then some (Decimal.leadingDigits digits).1 else none

/-- An integer in digits, with a minus sign or none. -/
def integer? : Text → Option Int
  | '-' :: digits => (natural? digits).map fun n => -n
  | digits => (natural? digits).map Int.ofNat

/-- Reads ranges in increasing order.  `least` is the first byte that is still free; without one
no range may follow. -/
def readAll (least : Option Nat) : List Text → Option (List ByteRange)
  | [] => some []
  | item :: rest => do
    let least ← least
    match item.trim with
    | '-' :: digits =>
      let count ← natural? digits
      return suffix count :: (← readAll none rest)
    | item =>
      let (first, last) ← Text.breakAt? ['-'] item
      let start ← natural? first.trim
      if start < least then
        none
      else if last.trim.isEmpty then
        return span start none :: (← readAll none rest)
      else
        let last ← integer? last.trim
        if last < start then
          none
        else
          let stop := last.toNat + 1
          return span start (some stop) :: (← readAll (some stop) rest)

/-- The stretch of `size` bytes that a range denotes, if its first byte is there.  No byte is the
first of none, so the last zero bytes are not there either. -/
def within (size : Nat) (r : ByteRange) : Option (Nat × Nat) :=
  let (start, stop) := match r with
    | span start stop => (start, min (stop.getD size) size)
    | suffix count => (if count ≤ size then size - count else size, size)
  if start < stop then some (start, stop) else none

/-- The stretch of `size` bytes that a header asks for, if it asks for one that is there. -/
def requested? (size : Nat) (header : Text) : Option (Nat × Nat) := do
  let (units, ranges) ← Text.breakAt? ['='] header
  match ← readAll (some 0) (ranges.splitOn ',') with
  | [range] =>
    if units.trim.map Char.toLower == "bytes".toList then range.within size else none
  | _ => none

end ByteRange

/-! ### What is served -/

/-- What a client gets of the page. -/
inductive Serving where
  /-- The page. -/
  | whole
  /-- A range of the page, which may be all of it. -/
  | range (complete : Bool)
  /-- Nothing, because the client has the page already. -/
  | unmodified
  /-- The page, because the condition of the client does not hold. -/
  | unmet
  /-- Nothing, because the range is not there. -/
  | unsatisfiable
deriving DecidableEq

/-- Whether a star is among the tags of a header. -/
def namesStar (header : Text) : Bool :=
  (header.splitOn ',').any fun tag => Text.trim tag == ['*']

/-- What a client gets that asks on a condition. -/
def Request.conditional (r : Request) : Serving :=
  if !((r.header? "If-Match").getD "").isEmpty then .unmet
  else if namesStar ((r.header? "If-None-Match").getD "").toList then .unmodified
  else .whole

/-- What a request gets of a page of `size` bytes.  A range that depends on a tag is not served,
and only a request to read asks for less than the page. -/
def Request.serving (size : Nat) (r : Request) : Serving :=
  if r.method != "GET" && r.method != "HEAD" then
    .whole
  else
    match r.header? "Range", r.header? "If-Range" with
    | some header, none =>
      match ByteRange.requested? size header.toList with
      | some stretch => .range (stretch == (0, size))
      | none => .unsatisfiable
    | _, _ => r.conditional

end SqlGuard
