/-
Reading values.

Reading has two steps, each one pass from left to right.  `tokens` divides the text into
punctuation and scalars and stops at the first thing that is neither; `read` builds the value
with a stack of the containers that are still open.  The stack is bounded: text that nests too
deep is refused at the bracket that goes too far, even if what follows is not well formed.  How
deep is too deep depends on the machine, and what stands for half of a pair of code units on the
reader, so both are left open.

The grammar is the usual one with three more numbers, `NaN`, `Infinity` and `-Infinity`.  A
string holds no raw control character, and an integer has at most `maxDigits` digits.
-/
import SqlGuard.Json.Basic
import SqlGuard.Text.Units

namespace SqlGuard.Json

/-- What is left open of a reader. -/
structure Reading where
  /-- The deepest nesting of containers. -/
  maxDepth : Nat
  /-- What stands for half of a pair without its partner, which is no character. -/
  lone : Nat → Char

/-! ### Scalars -/

/-- The most digits an integer may have. -/
def maxDigits : Nat :=
  4300

/-- Whether the text is a digit at least, and nothing but digits. -/
def isDigits (cs : Text) : Bool :=
  !cs.isEmpty && cs.all Char.isDigit

/-- Whether the text is an exponent, or empty. -/
def isExponentPart : Text → Bool
  | [] => true
  | e :: rest =>
    (e == 'e' || e == 'E') &&
      match rest with
      | '+' :: digits | '-' :: digits => isDigits digits
      | digits => isDigits digits

/-- Whether the text is a fraction, an exponent, both in this order, or empty. -/
def isFractionPart : Text → Bool
  | '.' :: rest =>
    isDigits (rest.takeWhile Char.isDigit) && isExponentPart (rest.dropWhile Char.isDigit)
  | rest => isExponentPart rest

/-- The number that a text denotes.  A leading zero stands alone before a fraction or exponent,
and a number with neither is an integer. -/
def number? (cs : Text) : Option Json :=
  let negative := cs.head? == some '-'
  let unsigned := if negative then cs.tail else cs
  let whole := unsigned.takeWhile Char.isDigit
  let rest := unsigned.dropWhile Char.isDigit
  if whole.isEmpty || (whole.head? == some '0' && whole.length != 1) then
    none
  else if !rest.isEmpty then
    if isFractionPart rest then some (.real (String.ofList cs)) else none
  else if maxDigits < whole.length then
    none
  else
    let magnitude : Int := (Decimal.leadingDigits whole).1
    some (.int (if negative then -magnitude else magnitude))

/-- The scalar that a text without quotes denotes. -/
def scalar? (cs : Text) : Option Json :=
  match String.ofList cs with
  | "null" => some .null
  | "true" => some (.bool true)
  | "false" => some (.bool false)
  | "NaN" => some (.real "NaN")
  | "Infinity" => some (.real "Infinity")
  | "-Infinity" => some (.real "-Infinity")
  | _ => number? cs

/-! ### Strings -/

/-- The character that a one-letter escape stands for. -/
def shortEscape? : Char → Option Char
  | '"' => some '"'
  | '\\' => some '\\'
  | '/' => some '/'
  | 'b' => some '\x08'
  | 'f' => some '\x0c'
  | 'n' => some '\n'
  | 'r' => some '\r'
  | 't' => some '\t'
  | _ => none

/-! ### Tokens -/

/-- A token of the format. -/
inductive Token where
  | openArr
  | closeArr
  | openObj
  | closeObj
  | comma
  | colon
  | scalar (value : Json)
  /-- The place where the text stops being divisible into tokens. -/
  | bad

/-- Where the division into tokens stands between two characters. -/
inductive Mode where
  /-- Between tokens. -/
  | gap
  /-- In a scalar without quotes; its characters, last one first. -/
  | bare (chars : Text)
  /-- In a string. -/
  | string (p : UnitReader)
  /-- Behind a backslash in a string. -/
  | escape (p : UnitReader)
  /-- In a four-digit escape: digits still to come, and the value of those read. -/
  | unit (p : UnitReader) (missing : Nat) (value : Nat)

/-- Whether a character may stand between tokens. -/
def isGap (c : Char) : Bool :=
  c == ' ' || c == '\t' || c == '\n' || c == '\r'

/-- The token that a punctuation character makes. -/
def punctuation? : Char → Option Token
  | '[' => some .openArr
  | ']' => some .closeArr
  | '{' => some .openObj
  | '}' => some .closeObj
  | ',' => some .comma
  | ':' => some .colon
  | _ => none

/-- The token of a finished scalar without quotes. -/
def bareToken (chars : Text) : Token :=
  match scalar? chars.reverse with
  | some v => .scalar v
  | none => .bad

/-- A character between tokens: the mode behind it and the tokens it completes. -/
def stepGap (done : List Token) (c : Char) : Mode × List Token :=
  if isGap c then
    (.gap, done)
  else if c == '"' then
    (.string {}, done)
  else
    match punctuation? c with
    | some t => (.gap, t :: done)
    | none => (.bare [c], done)

/-- One character.  Nothing is returned where the text cannot go on. -/
def step (lone : Nat → Char) (mode : Mode) (done : List Token) (c : Char) :
    Option (Mode × List Token) :=
  match mode with
  | .gap => some (stepGap done c)
  | .bare chars =>
    if isGap c || c == '"' || (punctuation? c).isSome then
      some (stepGap (bareToken chars :: done) c)
    else
      some (.bare (c :: chars), done)
  | .string p =>
    if c == '"' then some (.gap, .scalar (.str (String.ofList (p.text lone))) :: done)
    else if c == '\\' then some (.escape p, done)
    else if c.toNat < 0x20 then none
    else some (.string (p.push lone c), done)
  | .escape p =>
    if c == 'u' then some (.unit p 4 0, done)
    else (shortEscape? c).map fun e => (.string (p.push lone e), done)
  | .unit p missing value =>
    (hexValue? c).map fun d =>
      let value := 16 * value + d
      if missing = 1 then (.string (p.pushUnit lone value), done)
      else (.unit p (missing - 1) value, done)

/-- The tokens of a text, last one first, in front of `done`. -/
def tokensFrom (lone : Nat → Char) (mode : Mode) (done : List Token) : Text → List Token
  | [] =>
    match mode with
    | .gap => done
    | .bare chars => bareToken chars :: done
    | _ => .bad :: done
  | c :: rest =>
    match step lone mode done c with
    | some (mode, done) => tokensFrom lone mode done rest
    | none => .bad :: done

/-- The tokens of a text. -/
def tokens (lone : Nat → Char) (s : Text) : List Token :=
  (tokensFrom lone .gap [] s).reverse

/-! ### Values -/

/-- The two kinds of container. -/
inductive Container where
  | array
  | object
deriving DecidableEq

/-- Why a text is not read. -/
inductive ReadError where
  /-- The text is not of the format. -/
  | malformed
  /-- A container of this kind nests too deep. -/
  | tooDeep (container : Container)
deriving DecidableEq

/-- A container that is still open: what it holds so far, last one first. -/
inductive Frame where
  | array (items : List Json)
  /-- An object that waits for the value of `key`. -/
  | object (members : List (String × Json)) (key : String)

/-- What must come next. -/
inductive State where
  /-- A value. -/
  | value (stack : List Frame)
  /-- A value or the end of the array that was just opened. -/
  | firstItem (stack : List Frame)
  /-- A comma or the end of the array. -/
  | afterItem (items : List Json) (stack : List Frame)
  /-- A key or the end of the object that was just opened. -/
  | firstKey (stack : List Frame)
  /-- A key. -/
  | nextKey (members : List (String × Json)) (stack : List Frame)
  /-- A colon. -/
  | afterKey (members : List (String × Json)) (key : String) (stack : List Frame)
  /-- A comma or the end of the object. -/
  | afterMember (members : List (String × Json)) (stack : List Frame)
  /-- The end of the text. -/
  | finished (value : Json)

/-- The object with the given members, last one first.  Of two members with one key the later
value stands, in the place of the earlier. -/
def ofMembers (members : List (String × Json)) : Json :=
  .obj (members.foldr (fun (key, value) done => setMember key value done) [])

/-- The state behind a complete value. -/
def place (v : Json) : List Frame → State
  | [] => .finished v
  | .array items :: stack => .afterItem (v :: items) stack
  | .object members key :: stack => .afterMember ((key, v) :: members) stack

/-- The state behind the first token of a value. -/
def openValue (maxDepth : Nat) (stack : List Frame) : Token → Except ReadError State
  | .scalar v => .ok (place v stack)
  | .openArr =>
    if stack.length < maxDepth then .ok (.firstItem stack) else .error (.tooDeep .array)
  | .openObj =>
    if stack.length < maxDepth then .ok (.firstKey stack) else .error (.tooDeep .object)
  | _ => .error .malformed

/-- One token. -/
def State.next (maxDepth : Nat) : State → Token → Except ReadError State
  | .value stack, t => openValue maxDepth stack t
  | .firstItem stack, .closeArr => .ok (place (.arr []) stack)
  | .firstItem stack, t => openValue maxDepth (.array [] :: stack) t
  | .afterItem items stack, .comma => .ok (.value (.array items :: stack))
  | .afterItem items stack, .closeArr => .ok (place (.arr items.reverse) stack)
  | .firstKey stack, .closeObj => .ok (place (.obj []) stack)
  | .firstKey stack, .scalar (.str key) => .ok (.afterKey [] key stack)
  | .nextKey members stack, .scalar (.str key) => .ok (.afterKey members key stack)
  | .afterKey members key stack, .colon => .ok (.value (.object members key :: stack))
  | .afterMember members stack, .comma => .ok (.nextKey members stack)
  | .afterMember members stack, .closeObj => .ok (place (ofMembers members) stack)
  | _, _ => .error .malformed

/-- The value that a list of tokens makes. -/
def build (maxDepth : Nat) (state : State) : List Token → Except ReadError Json
  | [] =>
    match state with
    | .finished v => .ok v
    | _ => .error .malformed
  | t :: rest =>
    match state.next maxDepth t with
    | .ok state => build maxDepth state rest
    | .error e => .error e

/-- The value of a text. -/
def read (reading : Reading) (s : Text) : Except ReadError Json :=
  build reading.maxDepth (.value []) (tokens reading.lone s)

end SqlGuard.Json
