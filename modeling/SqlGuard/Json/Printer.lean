/-
Writing values.

A value is written on one line and in ASCII: a comma and a space between neighbours, a colon
and a space behind a key, and an escape for every character outside the printable ASCII range,
a pair of escapes for one beyond the basic plane.  A character that stands for half of such a pair,
which `half?` tells, is written as that half.
-/
import SqlGuard.Json.Basic
import SqlGuard.Text.Units

namespace SqlGuard.Json

/-- The escape of a code unit. -/
def unitEscape (unit : Nat) : String :=
  "\\u" ++ String.ofList (hexDigits 4 unit)

section Write

variable (half? : Char → Option Nat)

/-- The escapes of a character that is not written as it is. -/
def charEscape (c : Char) : String :=
  match half? c with
  | some half => unitEscape half
  | none =>
    let n := c.toNat
    if n < 0x10000 then
      unitEscape n
    else
      unitEscape (0xD800 + (n - 0x10000) / 0x400) ++ unitEscape (0xDC00 + (n - 0x10000) % 0x400)

/-- Writes a character of a string behind `out`. -/
def writeChar (out : String) (c : Char) : String :=
  match c with
  | '"' => out ++ "\\\""
  | '\\' => out ++ "\\\\"
  | '\n' => out ++ "\\n"
  | '\r' => out ++ "\\r"
  | '\t' => out ++ "\\t"
  | '\x08' => out ++ "\\b"
  | '\x0c' => out ++ "\\f"
  | c => if 0x20 ≤ c.toNat && c.toNat < 0x7F then out.push c else out ++ charEscape half? c

/-- Writes a string behind `out`. -/
def writeString (out s : String) : String :=
  (s.toList.foldl (writeChar half?) (out.push '"')).push '"'

mutual

/-- Writes a value behind `out`. -/
def write (out : String) : Json → String
  | .null => out ++ "null"
  | .bool true => out ++ "true"
  | .bool false => out ++ "false"
  | .int n => out ++ toString n
  | .real literal => out ++ literal
  | .str s => writeString half? out s
  | .arr items => (writeItems (out.push '[') true items).push ']'
  | .obj members => (writeMembers (out.push '\x7b') true members).push '\x7d'

/-- Writes the items of an array; a separator precedes every one but the first. -/
def writeItems (out : String) (first : Bool) : List Json → String
  | [] => out
  | v :: rest => writeItems (write (if first then out else out ++ ", ") v) false rest

/-- Writes the members of an object; a separator precedes every one but the first. -/
def writeMembers (out : String) (first : Bool) : List (String × Json) → String
  | [] => out
  | (key, v) :: rest =>
    let named := writeString half? (if first then out else out ++ ", ") key
    writeMembers (write (named ++ ": ") v) false rest

end

/-- A value as text. -/
def render (v : Json) : String :=
  write half? "" v

end Write

end SqlGuard.Json
