/-
Responses.

A response has a status, a type and a body; every one carries the same security headers.  What
goes wrong is answered in one place: the query that is refused, the statuses with an answer of
their own, the unknown path outside the programming interface, which gets the page, and the crash,
which is logged.
-/
import SqlGuard.Http.Framework
import SqlGuard.Http.Handler

namespace SqlGuard

/-- The body of a response. -/
inductive Body where
  | json (value : Json)
  | empty
  /-- The page of the service. -/
  | page
  /-- Some of the page of the service, but not all of it. -/
  | pagePart
  /-- A plain page that names the status. -/
  | statusPage

/-- A response. -/
structure Response where
  status : Nat
  /-- The type of the body; a response that stands for a body the client has gives none. -/
  mimetype : Option String
  body : Body
  /-- The methods that the path allows, where that was asked. -/
  allow : Option (List String) := none

namespace Response

/-- The headers of every response.  Outcomes must never be served from a cache. -/
def headers : List (String × String) :=
  [("X-Frame-Options", "DENY"),
    ("X-Content-Type-Options", "nosniff"),
    ("Content-Security-Policy", "default-src 'self' 'unsafe-inline'"),
    ("Cache-Control", "no-store, no-cache, must-revalidate, max-age=0"),
    ("Pragma", "no-cache"),
    ("Expires", "0")]

/-- An object as a response. -/
def ofMembers (status : Nat) (members : List (String × Json)) : Response :=
  { status, mimetype := some "application/json", body := .json (.obj members) }

/-- A success with its outcome. -/
def success (members : List (String × Json)) : Response :=
  ofMembers 200 (("success", .bool true) :: members)

/-- A failure with its message. -/
def failure (status : Nat) (message : String) : Response :=
  ofMembers status [("success", .bool false), ("error", .str message)]

/-- A failure that nobody is told more about. -/
def internalError : Response :=
  failure 500 "Internal server error"

/-- A body that is no value, as a response. -/
def ofBody (status : Nat) (body : Body) : Response :=
  { status, mimetype := some "text/html", body }

/-- The answer to the question which methods a path allows. -/
def allowing (methods : List String) : Response :=
  { ofBody 200 .empty with allow := some methods }

/-- The response without a body, for a client that asked for none. -/
def bodiless (r : Response) : Response :=
  { r with body := .empty }

/-! ### The page -/

/-- What is served of the page, as a response; nothing where it cannot be. -/
def ofServing? : Serving → Option Response
  | .whole => some (ofBody 200 .page)
  | .range complete => some (ofBody 206 (if complete then .page else .pagePart))
  | .unmodified => some { status := 304, mimetype := none, body := .empty }
  | .unmet => some (ofBody 412 .page)
  | .unsatisfiable => none

section Page

variable (fw : Framework) (request : Request)

/-- The answer to a request for the page. -/
def ofPage : Handler Response := do
  let config ← Handler.config
  return (ofServing? (fw.serving config.pageSize request)).getD (ofBody 416 .statusPage)

/-- The answer to a request for something that is not there.  A page that cannot be served in its
place is an error of the service. -/
def missing : Handler Response := do
  if "/api/".toList.isPrefixOf (fw.path request).toList then
    return failure 404 "Not found"
  else
    let config ← Handler.config
    match ofServing? (fw.serving config.pageSize request) with
    | some response => return response
    | none => do
      Handler.note .error s!"Exception on {fw.path request} [{fw.method request}]"
      return internalError

/-! ### What goes wrong -/

/-- The answer to a status. -/
def ofStatus : Nat → Handler Response
  | 400 => return failure 400 "Bad request"
  | 404 => missing fw request
  | 405 => return failure 405 "Method not allowed"
  | 500 => return internalError
  | code => return ofBody code .statusPage

/-- The answer to a request that is aborted. -/
def ofAbort : Abort → Handler Response
  | .status code => ofStatus fw request code
  | .crash cause => do
    Handler.note .error (s!"Unhandled error on {fw.path request}: " ++ cause.message)
    return internalError

end Page

end Response

end SqlGuard
