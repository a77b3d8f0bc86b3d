/-
The audit trail: one record for every check or repair that was asked for.

The record tells who asked, what the outcome was, and under which rules.  An input that may not
be executed is logged as a warning, so that it stands out from routine traffic.
-/
import SqlGuard.Answer
import SqlGuard.Engine.Check
import SqlGuard.Repair

namespace SqlGuard

/-- What the audit trail keeps of a check. -/
structure AuditEntry where
  /-- What was asked for. -/
  endpoint : String
  /-- Who asked, if that is known. -/
  client : Option String
  /-- The outcome. -/
  report : Report
  /-- The rules in force, if they are known. -/
  rules : Option Rules

namespace AuditEntry

/-- The structured data of an entry. -/
def fields (e : AuditEntry) : List (String × Json) :=
  [("endpoint", .str e.endpoint),
    ("client", (e.client.map Json.str).getD .null),
    ("is_valid", .bool e.report.isValid),
    ("statement_count", .ofNat e.report.statementCount),
    ("dangerous_count", .ofNat e.report.dangerousCount),
    ("active_filter_count", .ofNat e.report.activeFilterCount)] ++
  (e.rules.map Rules.members).getD []

/-- The message of an entry. -/
def message (e : AuditEntry) : String :=
  s!"{e.endpoint}: valid={spelled e.report.isValid} statements={e.report.statementCount} " ++
    s!"dangerous={e.report.dangerousCount} errors={e.report.errors.length} " ++
    s!"warnings={e.report.warnings.length}"

/-- The record of an entry. -/
def toRecord (e : AuditEntry) : Record where
  severity := if e.report.isValid then .info else .warning
  message := e.message
  fields := e.fields

end AuditEntry

/-- The record that tells of one fix. -/
def fixRecord (endpoint fix : String) : Record where
  severity := .info
  message := "auto-fix applied: " ++ fix
  fields := [("endpoint", .str endpoint)]

/-- The name under which repairs are audited. -/
def repairEndpoint : String :=
  "auto-fix"

namespace Engine

/-- Who asked. -/
def clientAddress (client : Option String) : Engine (Option String) := do
  enter .clientAddress
  return client

/-- Logs the outcome of a check, and gives the data that was logged. -/
def auditValidation (endpoint : String) (client : Option String) (report : Report)
    (rules : Option Rules) : Engine (List (String × Json)) := do
  enter .auditValidation
  let client ← clientAddress client
  let entry : AuditEntry := { endpoint, client, report, rules }
  record entry.toRecord
  return entry.fields

/-- Logs the outcome of a repair and every fix that was made.  The number of fixes is added to
the data only after it was logged. -/
def auditRepair {α : Type} (client : Option String) (outcome : Repair α)
    (rules : Option Rules) : Engine (List (String × Json)) := do
  enter .auditRepair
  let fields ← auditValidation repairEndpoint client outcome.validation rules
  outcome.fixes.forM fun fix => record (fixRecord repairEndpoint fix)
  return fields ++ [("fixes_applied", .ofNat outcome.fixes.length)]

end Engine

end SqlGuard
