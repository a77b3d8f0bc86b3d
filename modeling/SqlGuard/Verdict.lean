/-
The verdict on a statement, and on an input.

An input is divided at every semicolon, one inside a string literal included, and what is blank
between two semicolons is no statement.  Rejoining writes statements as an input that divides into
the same statements again.

Three scanners look at a statement: what kind it is, whether it has an active filter, whether it
has a commented one.  The rules then decide.  A commented filter settles the matter by itself;
otherwise each rule adds its errors, and a statement is valid when none did.
-/
import SqlGuard.Report
import SqlGuard.Rules
import SqlGuard.Statement.Filter

namespace SqlGuard

/-! ### From an input to its statements and back -/

/-- The statements of an input, trimmed, in order. -/
def statements (input : Text) : List Text :=
  ((input.splitOn ';').map Text.trim).filter (!·.isEmpty)

/-- One input made of the given statements. -/
def rejoin (ss : List Text) : Text :=
  "; ".toList.intercalate ss ++ [';']

/-- An input without characters has no statements. -/
@[simp]
theorem statements_nil : statements [] = [] := by
  simp [statements, Text.trim, Text.trimLeft, Text.trimRight]

/-! ### What the scanners say -/

/-- What the scanners say of a statement. -/
structure Scan where
  kind : String
  activeFilter : Bool
  commentedFilter : Bool
deriving DecidableEq

/-- Scans a statement. -/
def scan (s : Text) : Scan where
  kind := kind s
  activeFilter := hasActiveFilter s
  commentedFilter := hasCommentedFilter s

/-- Whether a kind of statement can change every row of a table. -/
def needsFilter (kind : String) : Bool :=
  kind == "UPDATE" || kind == "DELETE"

/-! ### Findings -/

/-- Something to tell about a statement. -/
inductive Finding where
  | filterOnlyInComment
  | noFilter (kind : String)
  | affectsAllRows
  | dropsTable
  | truncates
  | noLimit
deriving DecidableEq

/-- The wording of a finding. -/
def Finding.text : Finding → String
  | filterOnlyInComment => "INVALID: WHERE clause found only in a comment!"
  | noFilter kind => s!"VERY DANGEROUS: {kind} statement has no WHERE clause!"
  | affectsAllRows => "This statement will affect ALL rows in the table!"
  | dropsTable => "DROP TABLE statements are not allowed."
  | truncates => "TRUNCATE statements are not allowed."
  | noLimit => "Consider adding a LIMIT to large SELECT queries."

/-- A finding as the message on the statement with a given number. -/
def Finding.message (index : Int) (f : Finding) : String :=
  s!"[Query {index}] " ++ f.text

/-- What the rules have against a statement without a commented filter. -/
def violations (rules : Rules) (s : Text) (found : Scan) : List Finding :=
  (if rules.requireFilter && needsFilter found.kind && !found.activeFilter then
    [.noFilter found.kind, .affectsAllRows] else []) ++
  (if Text.mentions "DROP TABLE".toList s.upper && !rules.allowDrop then
    [.dropsTable] else []) ++
  (if Text.mentions "TRUNCATE".toList s.upper && !rules.allowTruncate then
    [.truncates] else [])

/-- What is advised about a statement without a commented filter. -/
def advice (s : Text) (found : Scan) : List Finding :=
  if found.kind == "SELECT" && !Text.mentions "LIMIT".toList s.upper then [.noLimit] else []

/-! ### Verdicts -/

/-- The report on a statement, given what the scanners say of it. -/
def judge (rules : Rules) (index : Int) (s : Text) (found : Scan) : StatementReport :=
  if found.commentedFilter then
    { valid := false
      kind := found.kind
      index
      errors := [Finding.filterOnlyInComment.message index] }
  else
    { valid := (violations rules s found).isEmpty
      kind := found.kind
      index
      hasActiveFilter := found.activeFilter
      errors := (violations rules s found).map (·.message index)
      warnings := (advice s found).map (·.message index) }

/-- The report on one statement. -/
def checkStatement (rules : Rules) (index : Int) (s : Text) : StatementReport :=
  judge rules index s (scan s)

/-- The reports on the statements of an input, numbered from one. -/
def checkStatements (rules : Rules) (ss : List Text) : List StatementReport :=
  ss.mapIdx fun i s => checkStatement rules (i + 1) s

/-- The report on an input. -/
def validate (rules : Rules) (input : Text) : Report :=
  Report.ofStatements (checkStatements rules (statements input))

end SqlGuard
