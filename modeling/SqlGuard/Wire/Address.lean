/-
Addresses, and the paths in them.

An address is read generously.  Control characters and blanks in front of it are dropped, tabs and
line breaks anywhere; a scheme and a host may precede the path, and a query and a fragment may
follow it.  A client and a server each divide the address, so what is left after the first
division is divided once more.
-/
import SqlGuard.Wire.Percent

namespace SqlGuard.Address

/-- Whether a character may stand in a scheme. -/
def isSchemeChar (c : Char) : Bool :=
  c.isAlphanum || c == '+' || c == '-' || c == '.'

/-- The address without what is dropped from it. -/
def cleaned (address : Text) : Text :=
  (address.dropWhile (·.toNat ≤ 0x20)).filter fun c => c != '\t' && c != '\r' && c != '\n'

/-- The address without its scheme.  A scheme starts with a letter and ends with a colon. -/
def withoutScheme (address : Text) : Text :=
  match address.dropWhile isSchemeChar with
  | ':' :: rest => if (address.head?.map Char.isAlpha).getD false then rest else address
  | _ => address

/-- The address without its host, which two slashes precede. -/
def withoutHost : Text → Text
  | '/' :: '/' :: rest => rest.dropWhile fun c => c != '/' && c != '?' && c != '#'
  | address => address

/-- The path of an address, in one division. -/
def divide (address : Text) : Text :=
  (withoutHost (withoutScheme (cleaned address))).takeWhile fun c => c != '?' && c != '#'

/-- The path that an address asks for, unescaped; it may be empty. -/
def target (address : Text) : Text :=
  Utf8.decodeLossy (Percent.decode (Utf8.encode (divide (divide address))))

/-- The path that an address asks for, with exactly one slash in front. -/
def path (address : Text) : Text :=
  '/' :: (target address).dropWhile (· == '/')

end SqlGuard.Address
