/-
Requests, and what they carry.

A body is read as a value only if the request says that it is one.  A body that is longer than
allowed is not read at all, and one that nests too deep is not read to its end; both abort the
request.  Whether a body that cannot be read is as good as none is for the reader to say: the
endpoints take it so, and a form does not.

The values of a field come from a form body or from a value that was sent.  That value is usually
an object.  Any other value is read as a sequence of pairs of a name and a value, which only a list
can be.
-/
import SqlGuard.Http.Abort
import SqlGuard.Wire.Address
import SqlGuard.Wire.Encoding

namespace SqlGuard

/-- A request. -/
structure Request where
  /-- The method, as the client spells it. -/
  method : String
  /-- The address that is asked for, with its query. -/
  address : Text
  /-- The headers, with the type of the body among them. -/
  headers : List (String × String) := []
  body : Bytes := []
  /-- The address of the client. -/
  client : String
  /-- When the request arrived. -/
  arrival : String
  /-- The components that are broken while the request is handled. -/
  faults : Faults := noFaults

/-- What the body of a request holds. -/
inductive Payload where
  /-- The request does not say that its body is a value. -/
  | none
  /-- The body ought to be a value and is not. -/
  | unreadable
  | value (v : Json)

/-- The value that was sent, if any. -/
def Payload.value? : Payload → Option Json
  | value v => some v
  | _ => Option.none

namespace Request

/-! ### Address and method -/

/-- The path that is asked for. -/
def path (r : Request) : String :=
  String.ofList (Address.path r.address)

/-- The path that routes are looked up with: empty where the address has none. -/
def target (r : Request) : Text :=
  if (Address.target r.address).isEmpty then [] else Address.path r.address

/-- The method in upper case. -/
def verb (r : Request) : String :=
  String.ofList (Text.upper r.method.toList)

/-- Whether the request has a method that submits a form. -/
def submits (r : Request) : Bool :=
  ["POST", "PUT", "PATCH", "DELETE"].contains r.verb

/-! ### Headers -/

/-- The name of a header without what is indifferent in it: case, and hyphen or underscore. -/
def plainName (name : String) : Text :=
  (Text.upper name.toList).map fun c => if c == '-' then '_' else c

/-- The value of a header.  One that is given several times has its values joined. -/
def header? (r : Request) (name : String) : Option String :=
  match (r.headers.filter fun h => plainName h.1 == plainName name).map Prod.snd with
  | [] => none
  | values => some (", ".intercalate values)

/-- What is said of a header that does not keep to one line. -/
def brokenHeaderMessage : String :=
  "Header values must not contain newline characters."

/-- Whether every header keeps to one line. -/
def hasPlainHeaders (r : Request) : Bool :=
  r.headers.all fun h => h.2.toList.all fun c => c != '\n' && c != '\r'

/-- The type of the body without its parameters, in lower case.  Only blanks of ASCII are dropped
around it. -/
def mimetype (r : Request) : String :=
  let value : Text := ((r.header? "Content-Type").getD "").toList.takeWhile (· != ';')
  String.ofList ((value.trimClass fun c => c.toNat < 0x80 && isBlank c).map Char.toLower)

/-- Whether the request says that its body is a value. -/
def isJson (r : Request) : Bool :=
  r.mimetype == "application/json" ||
    ("application/".toList.isPrefixOf r.mimetype.toList &&
      "+json".toList.isSuffixOf r.mimetype.toList)

/-- Whether the request says that its body is a form. -/
def isForm (r : Request) : Bool :=
  r.mimetype == "application/x-www-form-urlencoded"

/-! ### The body -/

/-- The length that the request gives for its body.  None is given for an empty body, unless it
is a form. -/
def bodyLength? (r : Request) : Option Nat :=
  if r.body.isEmpty && !r.isForm then none else some r.body.length

/-- Aborts a request whose body is too large. -/
def checkLength (limit : Limit) (r : Request) : Except Abort Unit :=
  match r.bodyLength? with
  | none => .ok ()
  | some length => do
    if ← limit.check length then .error (.status 413) else .ok ()

/-- What the request carries. -/
def payload (reading : Json.Reading) (limit : Limit) (r : Request) : Except Abort Payload :=
  if !r.isJson then
    .ok .none
  else do
    r.checkLength limit
    match Encoding.bodyText? reading.lone r.body with
    | none => .ok .unreadable
    | some s =>
      match Json.read reading s with
      | .ok v => .ok (.value v)
      | .error .malformed => .ok .unreadable
      | .error (.tooDeep container) => .error (.crash (.tooDeep container))

/-- The fields of the form that the body of the request is, if it is one. -/
def formFields (r : Request) : List (Text × Text) :=
  if r.isForm then Percent.fields (Utf8.decodeLossy r.body) else []

end Request

/-! ### Values of a field -/

namespace Field

/-- The values of a field, given the member of its name.  A list is one value for each item. -/
def ofMember? : Option Json → List Json
  | none => []
  | some (.arr items) => items
  | some value => [value]

/-- Whether a value can be a name: a list or an object cannot. -/
def canName : Json → Bool
  | .arr _ | .obj _ => false
  | _ => true

/-- A value as a pair of a name and a value. -/
def asPair (v : Json) : Except Abort (Json × Json) :=
  match v.elements? with
  | none => .error (.crash (.notDivisible v.typeName))
  | some [name, value] =>
    if canName name then .ok (name, value) else .error (.crash (.notName name.typeName))
  | some (_ :: _ :: _ :: _) => .error (.crash .tooMany)
  | some few => .error (.crash (.tooFew few.length))

/-- Whether a value is the name of a field. -/
def isNamed (field : String) : Json → Bool
  | .str name => name == field
  | _ => false

/-- The values of a field in a value that was sent. -/
def ofSent (field : String) : Json → Except Abort (List Json)
  | .obj members => .ok (ofMember? (members.lookup field))
  | .null => .ok []
  | v =>
    match v.elements? with
    | none => .error (.crash (.notIterable v.typeName))
    | some items => do
      let pairs ← items.mapM asPair
      return (pairs.filter (isNamed field ·.1)).map Prod.snd

end Field

/-- The values that a request submits for a field: those in a form body, and else those in the
value it carries. -/
def Request.sent (reading : Json.Reading) (limit : Limit) (r : Request) (field : String) :
    Except Abort (List Json) := do
  r.checkLength limit
  match r.formFields with
  | [] =>
    match ← r.payload reading limit with
    | .none => return []
    | .unreadable => .error (.status 400)
    | .value v => Field.ofSent field v
  | fields =>
    return (fields.filter (·.1 == field.toList)).map fun f => .str (String.ofList f.2)

end SqlGuard
