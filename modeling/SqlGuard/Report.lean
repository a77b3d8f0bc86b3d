/-
Reports.

A statement report is the outcome for one statement; a report is the outcome for an input.  The
counts of a report are read off its statements, and an input of several statements is unsafe as
a whole as soon as one of them is, while each statement keeps its own verdict.
-/
namespace SqlGuard

/-- The outcome for one statement. -/
structure StatementReport where
  /-- Whether the statement may be executed. -/
  valid : Bool
  /-- The leading keyword of the statement. -/
  kind : String
  /-- The number of the statement in its input. -/
  index : Int
  /-- Whether the statement has a filter that takes effect. -/
  hasActiveFilter : Bool := false
  /-- What is wrong with the statement. -/
  errors : List String := []
  /-- What could be better about it. -/
  warnings : List String := []
deriving DecidableEq

/-- The outcome for an input. -/
structure Report where
  /-- Whether the input may be executed. -/
  isValid : Bool
  /-- What is wrong with the input. -/
  errors : List String := []
  /-- What could be better about it. -/
  warnings : List String := []
  /-- The outcome for each statement. -/
  statements : List StatementReport := []
deriving DecidableEq

namespace Report

/-! ### Views -/

/-- The number of statements. -/
def statementCount (r : Report) : Nat :=
  r.statements.length

/-- The number of statements that may be executed. -/
def validCount (r : Report) : Nat :=
  r.statements.countP (·.valid)

/-- The number of statements that may not be executed. -/
def dangerousCount (r : Report) : Nat :=
  r.statements.countP (!·.valid)

/-- The number of statements with a filter that takes effect. -/
def activeFilterCount (r : Report) : Nat :=
  r.statements.countP (·.hasActiveFilter)

/-- The kind of the first statement. -/
def kind (r : Report) : String :=
  match r.statements with
  | [] => "UNKNOWN"
  | s :: _ => s.kind

/-- Whether some statement has a filter that takes effect. -/
def hasActiveFilter (r : Report) : Bool :=
  0 < r.activeFilterCount

/-! ### Making reports -/

/-- The message for an input without statements. -/
def noStatements : String :=
  "No valid SQL statements found."

/-- The message for an input that could not be processed. -/
def notProcessed : String :=
  "Validation failed; could not process input."

/-- The warning that sums up an input of several statements. -/
def summary (total valid dangerous : Nat) : String :=
  s!"Found {total} queries: {valid} valid, {dangerous} dangerous."

/-- The errors that an input of several statements gets when some are dangerous. -/
def escalation (dangerous : Nat) : List String :=
  let queries := if dangerous = 1 then "query" else "queries"
  [s!"CRITICAL: Found {dangerous} dangerous {queries}!",
    "HALT EXECUTION! Some queries can modify every row in a table."]

/-- The report on an input with the given statement reports. -/
def ofStatements (statements : List StatementReport) : Report :=
  if statements.isEmpty then
    { isValid := false, errors := [noStatements] }
  else
    let total := statements.length
    let valid := statements.countP (·.valid)
    let dangerous := total - valid
    let several := 1 < total
    { isValid := dangerous == 0
      errors := statements.flatMap (·.errors) ++
        if several && 0 < dangerous then escalation dangerous else []
      warnings := statements.flatMap (·.warnings) ++
        if several then [summary total valid dangerous] else []
      statements }

/-- The report on an input that could not be processed. -/
def fault : Report :=
  { isValid := false, errors := [notProcessed] }

end Report

end SqlGuard
