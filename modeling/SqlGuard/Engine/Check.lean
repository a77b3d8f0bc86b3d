/-
Checking, component by component.

Each component computes what the plain function of the same purpose computes.  Scanning a
statement goes line by line and stops at the first line that decides, so a component counts as
reached only if some line gets that far.  A fault while an input is checked is caught: it is
logged, and the report says that the input could not be processed.
-/
import SqlGuard.Engine.Submission

namespace SqlGuard.Engine

/-! ### Scanning a statement -/

/-- Whether a line holds nothing but a comment. -/
def isCommentLine (line : Text) : Engine Bool := do
  enter .commentLine
  return SqlGuard.isCommentLine line

/-- The code of a line. -/
def codePart (line : Text) : Engine Text := do
  enter .codePart
  return SqlGuard.codePart line

/-- A statement without comments. -/
def clean (s : Text) : Engine Text := do
  enter .clean
  return SqlGuard.clean s

/-- The kind of a statement. -/
def kind (s : Text) : Engine String := do
  enter .kind
  return leadingKeyword (← clean s)

/-- Whether a line has a filter in its code. -/
def isFiltered (line : Text) : Engine Bool := do
  if ← isCommentLine line then
    return false
  else
    return mentionsFilter (← codePart line)

/-- Whether a statement has a filter that takes effect. -/
def hasActiveFilter (s : Text) : Engine Bool := do
  enter .activeFilter
  s.lines.anyM isFiltered

/-- Whether a line disables a filter. -/
def disablesFilter (line : Text) : Engine Bool := do
  enter .commentLine
  return SqlGuard.disablesFilter line

/-- Whether a statement has a filter that is commented out. -/
def hasCommentedFilter (s : Text) : Engine Bool := do
  enter .commentedFilter
  s.lines.anyM disablesFilter

/-! ### Checking a statement -/

/-- The message that tells what the scanners said of a statement. -/
def scanMessage (index : Int) (found : Scan) : String :=
  s!"Query {index} kind={found.kind} active_where={spelled found.activeFilter} " ++
    s!"commented_where={spelled found.commentedFilter}"

/-- The report on one statement. -/
def checkStatement (rules : Rules) (index : Int) (s : Text) : Engine StatementReport := do
  enter .checkStatement
  let kind ← kind s
  let activeFilter ← hasActiveFilter s
  let commentedFilter ← hasCommentedFilter s
  let found : Scan := { kind, activeFilter, commentedFilter }
  note .debug (scanMessage index found)
  return judge rules index s found

/-- The report on one statement, if what was handed in is one. -/
def checkSubmission (rules : Rules) (index : Int) : Submission → Engine StatementReport
  | .text s => checkStatement rules index s
  | .other v => do
    enter .checkStatement
    enter .kind
    enter .clean
    fail (.notText v.typeName)

/-! ### Checking an input -/

/-- The statements of what was handed in.  Nothing is logged where nothing was. -/
def split (input : Submission) : Engine (List Text) := do
  enter .split
  match input.statements with
  | .error e => fail e
  | .ok ss =>
    if !input.isBlankSheet then
      note .debug s!"Split input into {ss.length} statement(s)"
    return ss

/-- The message that sums up a report. -/
def completedMessage (r : Report) : String :=
  s!"Validation completed: valid={spelled r.isValid} statements={r.statementCount} " ++
    s!"errors={r.errors.length} warnings={r.warnings.length}"

/-- The report on what was handed in, a fault being passed on. -/
def assess (rules : Rules) (input : Submission) : Engine Report := do
  let ss ← split input
  let reports ← ss.zipIdx.mapM fun (s, i) => checkStatement rules (i + 1) s
  let report := Report.ofStatements reports
  note .debug (completedMessage report)
  return report

/-- The report on what was handed in. -/
def validate (rules : Rules) (input : Submission) : Engine Report := do
  enter .validate
  recover (assess rules input) fun _ => do
    note .error "Unexpected error while validating query"
    return Report.fault

end SqlGuard.Engine
