/-
Why a request is not carried out.

A query is refused, and the client is told why.  Anything else that stops a request is an abort:
the request gets a status of its own, or something goes wrong that nobody expected, which is logged
and not told.  The wording of each is here and nowhere else.
-/
import SqlGuard.Engine.Basic
import SqlGuard.Http.Limit
import SqlGuard.Json.Reader

namespace SqlGuard

/-! ### Refusals -/

/-- Why a query is not accepted. -/
inductive Refusal where
  /-- No object was sent. -/
  | noBody
  /-- There is no query, or an empty one. -/
  | required
  /-- The query is not a text. -/
  | notText
  /-- The query is longer than the limit. -/
  | tooLong (limit : Limit)
deriving DecidableEq

/-- The text of a refusal. -/
def Refusal.message : Refusal → String
  | noBody => "Request body is required"
  | required => "Query is required"
  | notText => "Query must be a string"
  | tooLong limit => s!"Query exceeds the maximum length of {limit.shown} characters"

/-! ### Crashes -/

/-- What may go wrong that nobody expected. -/
inductive Crash where
  /-- The engine came to a fault. -/
  | fault (cause : Fault)
  /-- A value nests too deep. -/
  | tooDeep (container : Json.Container)
  /-- A length is compared with a limit that is no number. -/
  | incomparable (typeName : String)
  /-- Pairs are looked for in a value that is not made of others. -/
  | notIterable (typeName : String)
  /-- A value that ought to be a pair is not made of others. -/
  | notDivisible (typeName : String)
  /-- A value that ought to be a pair holds fewer than two. -/
  | tooFew (count : Nat)
  /-- A value that ought to be a pair holds more than two. -/
  | tooMany
  /-- A list or an object is given as a name. -/
  | notName (typeName : String)
  /-- The configured rules are no rules. -/
  | noRules (typeName : String)
  /-- Anything else. -/
  | other (message : String)
deriving DecidableEq

/-- The text of a crash. -/
def Crash.message : Crash → String
  | fault cause => cause.message
  | tooDeep container =>
    let name := match container with
      | .array => "array"
      | .object => "object"
    s!"maximum recursion depth exceeded while decoding a JSON {name} from a unicode string"
  | incomparable typeName =>
    s!"'>' not supported between instances of 'int' and '{typeName}'"
  | notIterable typeName => s!"'{typeName}' object is not iterable"
  | notDivisible typeName => s!"cannot unpack non-iterable {typeName} object"
  | tooFew count => s!"not enough values to unpack (expected 2, got {count})"
  | tooMany => "too many values to unpack (expected 2)"
  | notName typeName => s!"unhashable type: '{typeName}'"
  | noRules typeName => s!"'{typeName}' object has no attribute 'with_overrides'"
  | other message => message

/-! ### Aborts -/

/-- What stops a request before it is answered. -/
inductive Abort where
  /-- The request gets a status of its own. -/
  | status (code : Nat)
  /-- Something went wrong that nobody expected. -/
  | crash (cause : Crash)
deriving DecidableEq

/-- What the statuses for a body that cannot be read, or is too large, say. -/
def statusMessage : Nat → String
  | 400 =>
    "400 Bad Request: The browser (or proxy) sent a request that this server could not understand."
  | 413 =>
    "413 Request Entity Too Large: The data value transmitted exceeds the capacity limit."
  | code => toString code

/-- The text of an abort. -/
def Abort.message : Abort → String
  | status code => statusMessage code
  | crash cause => cause.message

/-- Whether a length is beyond a limit, where one that is no number is a crash. -/
def Limit.check (limit : Limit) (length : Nat) : Except Abort Bool :=
  match limit.isExceeded length with
  | .ok exceeded => .ok exceeded
  | .error typeName => .error (.crash (.incomparable typeName))

end SqlGuard
