/-
What comes of posting a query.

There are two endpoints that take a query, and they differ only in the work they do with it.
Routing, reading the body and catching faults are the same for both, and all but the last are the
framework's.  Once it leads a request to an endpoint, all that is left of the request is the value
it carries and the client it comes from, and everything that can happen is decided by the gate: a
refusal is answered and leaves no trace, a crash is logged and answered in general terms, and a
query that passes is answered with the outcome of the plain functions and logged record by record.
-/
import SqlGuard.Proofs.Engine.Trace
import SqlGuard.Proofs.Http.Framework
import SqlGuard.Proofs.Http.Gate

namespace SqlGuard

/-- The endpoints that take a query. -/
inductive Endpoint where
  | validate
  | repair
deriving DecidableEq

namespace Endpoint

def path : Endpoint → String
  | validate => "/api/validate"
  | repair => "/api/auto-fix"

def route : Endpoint → Route
  | validate => .validate
  | repair => .repair

/-- What the endpoint does with a query. -/
def work (client : Option String) :
    Endpoint → Submission → Rules → Engine (List (String × Json))
  | validate => validateQuery client
  | repair => repairQuery client

/-! ### The outcome -/

section Outcome

variable (rules : Rules) (query : Text)

/-- What a query is answered with. -/
def outcome : Endpoint → List (String × Json)
  | validate => (SqlGuard.validate rules query).members
  | repair => (SqlGuard.repair rules query).members fun s => .str (String.ofList s)

/-- The report in the answer. -/
def report : Endpoint → Report
  | validate => SqlGuard.validate rules query
  | repair => (SqlGuard.repair rules query).validation

/-- The fixes in the answer; a check makes none. -/
def fixes : Endpoint → List String
  | validate => []
  | repair => (SqlGuard.repair rules query).fixes

/-! ### The records -/

/-- The records that the engine writes on the way. -/
def engineRecords : Endpoint → List Record
  | validate => Engine.checkRecords rules query
  | repair => Engine.repairRecords rules query

/-- What the audit trail keeps. -/
def auditEntry (client : Option String) (e : Endpoint) : AuditEntry where
  endpoint := match e with
    | validate => "validate"
    | repair => repairEndpoint
  client := client
  report := e.report rules query
  rules := some rules

/-- All records of a query that is carried out. -/
def records (client : Option String) (e : Endpoint) : List Record :=
  e.engineRecords rules query ++
    (e.auditEntry rules query client).toRecord ::
      (e.fixes rules query).map (fixRecord repairEndpoint)

end Outcome

theorem gives_auditValidation (endpoint : String) (client : Option String) (report : Report)
    (rules : Option Rules) :
    Engine.Gives noFaults (Engine.auditValidation endpoint client report rules)
      (.ok (AuditEntry.fields { endpoint, client, report, rules }))
      [AuditEntry.toRecord { endpoint, client, report, rules }] := by
  have hclient : Engine.Gives noFaults (Engine.clientAddress client) (.ok client) [] :=
    (Engine.Gives.enter rfl).bind_silent (.pure _)
  refine (Engine.Gives.enter rfl).bind_silent (hclient.bind_silent ?_)
  exact (Engine.Gives.record _).bind (.pure _)

/-- The fixes are logged behind the outcome. -/
theorem gives_auditRepair {α : Type} (client : Option String) (outcome : Repair α)
    (rules : Option Rules) :
    Engine.Gives noFaults (Engine.auditRepair client outcome rules)
      (.ok (AuditEntry.fields
          { endpoint := repairEndpoint, client, report := outcome.validation, rules } ++
        [("fixes_applied", .ofNat outcome.fixes.length)]))
      (AuditEntry.toRecord
          { endpoint := repairEndpoint, client, report := outcome.validation, rules } ::
        outcome.fixes.map (fixRecord repairEndpoint)) := by
  refine (Engine.Gives.enter rfl).bind_silent
    ((gives_auditValidation repairEndpoint client outcome.validation rules).bind ?_)
  rw [← List.append_nil (List.map _ _)]
  exact (Engine.Gives.forM_record _).bind (.pure _)

/-- **A query that is carried out comes to the outcome of the plain functions.** -/
theorem gives_work (e : Endpoint) (client : Option String) (query : Text) (rules : Rules) :
    Engine.Gives noFaults (e.work client (.text query) rules) (.ok (e.outcome rules query))
      (e.records rules query client) := by
  have hcheckable := Engine.checkable_noFaults query
  cases e with
  | validate =>
      refine (Engine.gives_validate Engine.onlyScanners_noFaults hcheckable rules).bind ?_
      exact (gives_auditValidation _ client _ _).bind (.pure _)
  | repair =>
      refine (Engine.gives_repair Engine.onlyScanners_noFaults hcheckable rules).bind ?_
      rw [← List.append_nil (_ :: _)]
      exact (gives_auditRepair client _ _).bind (.pure _)

end Endpoint

/-! ### From a request to the gate -/

/-- A request that posts to an endpoint, while nothing is broken. -/
structure Request.Posts (request : Request) (fw : Framework) (e : Endpoint) : Prop where
  method_eq : fw.method request = "POST"
  target_eq : fw.target request = e.path.toList
  working : request.faults = noFaults

section Posts

open Handler

variable {fw : Framework} (hfw : fw.Documented) {request : Request} {e : Endpoint}
  (hpost : request.Posts fw e)
include hfw hpost

theorem Request.Posts.path_eq : fw.path request = e.path := by
  have hne : e.path.toList ≠ [] := by cases e <;> decide
  rw [hfw.path_eq request (by rwa [hpost.target_eq]), hpost.target_eq, String.ofList_toList]

theorem Request.Posts.destination_eq : fw.destination request = .found e.route := by
  refine hfw.found request e.route ?_ ?_ ?_ ?_
  · cases e <;> decide
  · rw [hpost.target_eq]
    cases e <;> decide
  · rw [hpost.method_eq]
    cases e <;> decide
  · rw [hpost.method_eq]
    decide

/-- What is posted is answered at the endpoint. -/
theorem Request.Posts.gives_answer {config : Config} {result : Except Abort Response}
    {records : List Record}
    (h : Gives config
      ((answerQuery fw request e.path (e.work (some request.client))).recover
        (Response.ofAbort fw request)) result records) :
    Gives config (answer fw request) result records := by
  have hroute : e.route.answer fw request =
      answerQuery fw request e.path (e.work (some request.client)) := by
    cases e <;> rfl
  have hmap := h.map fun response =>
    if fw.omitsBody request then response.bodiless else response
  have hsame : (result.map fun response =>
      if fw.omitsBody request then response.bodiless else response) = result := by
    rw [hfw.answers_post request hpost.method_eq]
    cases result <;> rfl
  unfold answer
  rw [hpost.destination_eq hfw]
  show Gives config (((e.route.answer fw request).recover _) >>= _) result records
  rw [hroute]
  rwa [hsame] at hmap

end Posts

theorem Config.run_of_gives {config : Config} {x : Handler Response} {response : Response}
    {records : List Record} (hx : Handler.Gives config x (.ok response) records) :
    config.run noFaults x =
      { response, log := visible config.logLevel records, config } := by
  unfold Config.run
  rw [hx #[]]
  simp

/-! ### Behind the gate -/

section Handle

open Handler

variable {fw : Framework} (hfw : fw.Documented) {config : Config} {request : Request}
  {e : Endpoint} (hpost : request.Posts fw e)
include hfw hpost

/-- A request is handled as it is answered. -/
theorem Config.handle_of_gives {response : Response} {records : List Record}
    (h : Gives config
      ((answerQuery fw request e.path (e.work (some request.client))).recover
        (Response.ofAbort fw request)) (.ok response) records) :
    config.handle fw request =
      { response, log := visible config.logLevel records, config } := by
  unfold Config.handle
  rw [hpost.working]
  exact Config.run_of_gives (hpost.gives_answer hfw h)

/-- What crashes at the gate is logged and answered in general terms. -/
theorem Config.handle_of_gate_crash {cause : Crash}
    (hgate : Gives config (gate fw request) (.error (.crash cause)) []) :
    config.handle fw request =
      { response := .internalError
        log := visible config.logLevel
          [{ severity := .error
             message := s!"Unhandled error on {e.path}: " ++ cause.message }]
        config } := by
  refine Config.handle_of_gives hfw hpost (Gives.recover_abort (hgate.bind_abort _) ?_)
  rw [← hpost.path_eq hfw]
  exact (Gives.note _ _).map _

section Read

variable {payload : Option Json}
  (hpayload : fw.payload config.maxContentLength request = .ok payload)
include hpayload

theorem Config.handle_of_passed {s : String} {rules : Rules}
    (hverdict : config.verdict payload = .ok (.ok (s, rules))) :
    config.handle fw request =
      { response := .success (e.outcome rules s.toList)
        log := visible config.logLevel (e.records rules s.toList (some request.client))
        config } := by
  have hgate := gives_gate hfw hpost.method_eq hpayload
  rw [hverdict] at hgate
  refine Config.handle_of_gives hfw hpost (Gives.recover_ok ?_ _)
  refine hgate.bind_silent (Gives.recover_ok ?_ _)
  exact (Gives.ofEngine (e.gives_work (some request.client) s.toList rules)).map _

theorem Config.handle_of_refused {refusal : Refusal}
    (hverdict : config.verdict payload = .ok (.error refusal)) :
    config.handle fw request =
      { response := .failure 400 refusal.message, log := [], config } := by
  have hgate := gives_gate hfw hpost.method_eq hpayload
  rw [hverdict] at hgate
  show config.handle fw request =
    { response := _, log := visible config.logLevel [], config }
  refine Config.handle_of_gives hfw hpost (Gives.recover_ok ?_ _)
  exact hgate.bind_silent (.pure _)

theorem Config.handle_of_crash {cause : Crash}
    (hverdict : config.verdict payload = .error (.crash cause)) :
    config.handle fw request =
      { response := .internalError
        log := visible config.logLevel
          [{ severity := .error
             message := s!"Unhandled error on {e.path}: " ++ cause.message }]
        config } := by
  have hgate := gives_gate hfw hpost.method_eq hpayload
  rw [hverdict] at hgate
  exact Config.handle_of_gate_crash hfw hpost hgate

end Read

/-- A body that is too large gets the status for that. -/
theorem Config.handle_of_large
    (hpayload : fw.payload config.maxContentLength request = .error (.status 413)) :
    config.handle fw request =
      { response := .ofBody 413 .statusPage, log := [], config } := by
  have hgate := gives_gate_of_unread hpayload
  exact Config.handle_of_gives hfw hpost (Gives.recover_abort (hgate.bind_abort _) (.pure _))

variable (config) in
/-- **The ways a request can end.**  A query that passes is carried out, one that is refused
leaves no record, and nothing else is answered with either of their statuses. -/
theorem Config.handle_cases :
    (∃ members s rules base,
        fw.payload config.maxContentLength request = .ok (some (.obj members)) ∧
        members.lookup queryField = some (.str s) ∧ config.baseRules = .ok base ∧
        InForce base members rules ∧
        config.handle fw request =
          { response := .success (e.outcome rules s.toList)
            log := visible config.logLevel (e.records rules s.toList (some request.client))
            config }) ∨
      (∃ refusal : Refusal, config.handle fw request =
        { response := .failure 400 refusal.message, log := [], config }) ∨
      (config.handle fw request).response.status ∈ [413, 500] := by
  rcases hpayload : fw.payload config.maxContentLength request with abort | payload
  · rcases hfw.payload_error _ _ _ hpayload with rfl | ⟨cause, rfl⟩
    · rw [Config.handle_of_large hfw hpost hpayload]
      exact Or.inr (Or.inr List.mem_cons_self)
    · rw [Config.handle_of_gate_crash hfw hpost (gives_gate_of_unread hpayload)]
      exact Or.inr (Or.inr (List.mem_of_mem_tail List.mem_cons_self))
  · rcases verdict_cases config payload with
      ⟨members, s, rules, base, rfl, hquery, hbase, hforce, hverdict⟩ | ⟨refusal, hverdict⟩ |
        ⟨cause, hverdict⟩
    · have hhandle := Config.handle_of_passed hfw hpost hpayload hverdict
      exact Or.inl ⟨members, s, rules, base, rfl, hquery, hbase, hforce, hhandle⟩
    · exact Or.inr (Or.inl ⟨refusal, Config.handle_of_refused hfw hpost hpayload hverdict⟩)
    · rw [Config.handle_of_crash hfw hpost hpayload hverdict]
      exact Or.inr (Or.inr (List.mem_of_mem_tail List.mem_cons_self))

end Handle

/-! ### Posting a value -/

/-- A request that posts a text as a value. -/
def Endpoint.post (e : Endpoint) (client : String) (body : Text) : Request where
  method := "POST"
  address := e.path.toList
  headers := [("Content-Type", "application/json")]
  body := Utf8.encode body
  client := client
  arrival := ""

section Post

variable (reading : Json.Reading) (e : Endpoint) (client : String)

theorem Endpoint.posts_post (body : Text) :
    (e.post client body).Posts (Framework.standard reading) e := by
  have hverb : (Endpoint.post .validate "" []).verb = "POST" := by decide
  have htarget : (Endpoint.post e "" []).target = e.path.toList := by
    cases e <;> decide +kernel
  exact ⟨hverb, htarget, rfl⟩

theorem Endpoint.payload_post {body : Text} {v : Json}
    (htext : Encoding.bodyText? reading.lone (Utf8.encode body) = some body)
    (hread : Json.read reading body = .ok v) :
    (Framework.standard reading).payload .none (e.post client body) = .ok (some v) := by
  have hjson : (e.post client body).isJson = true := by
    show (Endpoint.post .validate "" []).isJson = true
    decide +kernel
  have hlength : (e.post client body).checkLength .none = .ok () := by
    unfold Request.checkLength
    cases (e.post client body).bodyLength? <;> rfl
  have hbody : Encoding.bodyText? reading.lone (e.post client body).body = some body := htext
  have hvalue : (e.post client body).payload reading .none = .ok (.value v) := by
    unfold Request.payload
    rw [hjson, hlength]
    simp [hbody, hread, bind, Except.bind]
  unfold Framework.standard
  dsimp only
  rw [hvalue]
  rfl

end Post

end SqlGuard
