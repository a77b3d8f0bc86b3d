/-
The service: which request gets which answer.

A request to check or repair goes through a gate, which refuses it or passes on the query and the
rules in force; what comes out is the outcome of the engine, and an audit record.  The
configuration goes through every handler on the way, and on to the next request.
-/
import SqlGuard.Audit
import SqlGuard.Engine.Mend
import SqlGuard.Http.Form
import SqlGuard.Http.Response

namespace SqlGuard

/-! ### The gate -/

/-- The rules for a request that carries an object with the given members. -/
def rulesForRequest (members : List (String × Json)) : Handler Rules := do
  let config ← Handler.config
  Handler.ofExcept (config.rulesFor members)

/-- The query and the rules of a request that carries an object with the given members, or the
message that the form refuses it with. -/
def submitForm (fw : Framework) (request : Request) (members : List (String × Json)) :
    Handler (Except String (Json × Rules)) := do
  let form ← Form.check fw request
  if form.accepted then
    let rules ← rulesForRequest members
    return .ok (form.query, rules)
  else
    return .error form.firstError

/-- The query and the rules of a request, or the message that it is refused with.  A body that
cannot be read is as good as none. -/
def gate (fw : Framework) (request : Request) : Handler (Except String (Json × Rules)) := do
  let config ← Handler.config
  match ← Handler.ofExcept (fw.payload config.maxContentLength request) with
  | some (.obj members) =>
    match members.lookup queryField with
    | none | some .null | some (.str _) => submitForm fw request members
    | some _ => return .error Refusal.notText.message
  | _ => return .error Refusal.noBody.message

/-! ### Endpoints -/

/-- Checks a query and audits the outcome. -/
def validateQuery (client : Option String) (query : Submission) (rules : Rules) :
    Engine (List (String × Json)) := do
  let report ← Engine.validate rules query
  let _ ← Engine.auditValidation "validate" client report (some rules)
  return report.members

/-- Repairs a query and audits the outcome. -/
def repairQuery (client : Option String) (query : Submission) (rules : Rules) :
    Engine (List (String × Json)) := do
  let outcome ← Engine.repair rules query
  let _ ← Engine.auditRepair client outcome (some rules)
  return outcome.members Submission.toJson

/-- Answers with what `work` makes of the query.  A fault is logged and not told. -/
def answerQuery (fw : Framework) (request : Request) (path : String)
    (work : Submission → Rules → Engine (List (String × Json))) : Handler Response := do
  match ← gate fw request with
  | .error message => return Response.failure 400 message
  | .ok (query, rules) =>
    let carried : Handler Response := do
      let members ← Handler.ofEngine (work (.ofJson query) rules)
      return Response.success members
    carried.recover fun abort => do
      Handler.note .error (s!"Server error in {path}: " ++ abort.message)
      return Response.internalError

/-- What the service says of its health. -/
def healthMembers (arrival : String) : List (String × Json) :=
  [("status", .str "OK"),
    ("message", .str "SQL Query Validator is running"),
    ("timestamp", .str arrival)]

/-- The file that holds the page. -/
def pageFile : Text :=
  "index.html".toList

/-- The answer of a route to a method that it allows.  The page is the only file. -/
def Route.answer (fw : Framework) (request : Request) : Route → Handler Response
  | .page => Response.ofPage fw request
  | .file name =>
    if name = pageFile then Response.ofPage fw request else Handler.ofExcept (.error (.status 404))
  | .health => return Response.ofMembers 200 (healthMembers request.arrival)
  | .validate => answerQuery fw request "/api/validate" (validateQuery (some request.client))
  | .repair => answerQuery fw request "/api/auto-fix" (repairQuery (some request.client))

/-! ### Requests -/

/-- The status for a path that is spelled in another way. -/
def movedStatus : Nat :=
  308

/-- The answer at the destination of a request. -/
def Destination.answer (fw : Framework) (request : Request) : Destination → Handler Response
  | .nowhere => Handler.ofExcept (.error (.status 404))
  | .notAllowed => Handler.ofExcept (.error (.status 405))
  | .moved => Handler.ofExcept (.error (.status movedStatus))
  | .described route => return Response.allowing route.methods
  | .found route => route.answer fw request

/-- The answer to a request.  One that is aborted is answered in one place. -/
def answer (fw : Framework) (request : Request) : Handler Response := do
  let response ← ((fw.destination request).answer fw request).recover (Response.ofAbort fw request)
  return if fw.omitsBody request then response.bodiless else response

/-- What comes of a request. -/
structure Handled where
  response : Response
  /-- The records that the logger lets through. -/
  log : List Record
  /-- The configuration behind the request. -/
  config : Config

namespace Config

/-- Runs a handler that gives a response. -/
def run (config : Config) (faults : Faults) (x : Handler Response) : Handled :=
  let (result, running) := x faults { config, log := #[] }
  { response := match result with
      | .ok response => response
      | .error _ => Response.internalError
    log := visible running.config.logLevel running.log.toList
    config := running.config }

/-- Handles a request. -/
def handle (config : Config) (fw : Framework) (request : Request) : Handled :=
  config.run request.faults (answer fw request)

/-- Handles a request that is aborted. -/
def handleAbort (config : Config) (fw : Framework) (request : Request) (abort : Abort) : Handled :=
  config.run request.faults (Response.ofAbort fw request abort)

/-- Handles requests one after the other, each under the configuration that the one before it left.
Entries of the configuration may be changed in front of a request. -/
def handleAll (config : Config) (fw : Framework) :
    List (List (String × Json) × Request) → List Handled
  | [] => []
  | (changes, request) :: later =>
    let first := config.run request.faults do
      changes.forM fun change => Handler.setEntry change.1 change.2
      answer fw request
    first :: first.config.handleAll fw later

end Config

end SqlGuard
