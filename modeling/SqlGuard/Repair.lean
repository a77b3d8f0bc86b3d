/-
Repair: putting a commented filter back into effect.

An UPDATE or DELETE whose only filter is commented out can be repaired: the line with the first
commented filter becomes its code followed by the clause, and the statement's whitespace is
normalised.  Line breaks are kept, so that a line comment elsewhere cannot swallow the clause.
A change that leaves the filter without effect is discarded.
-/
import SqlGuard.Verdict

namespace SqlGuard

/-! ### Whitespace -/

/-- A line with single spaces for its runs of horizontal blanks, and trimmed. -/
def normaliseLine (line : Text) : Text :=
  Text.trim ([' '].intercalate (line.pieces isHorizontal))

/-- A statement with normalised lines and without the empty ones. -/
def normalise (s : Text) : Text :=
  Text.unlines ((s.lines.map normaliseLine).filter (!·.isEmpty))

/-! ### One statement -/

/-- A statement whose commented filter was put into effect. -/
structure Activation where
  /-- The statement with the filter in effect. -/
  text : Text
  /-- The clause that is no longer a comment. -/
  clause : Text
deriving DecidableEq

/-- The statement with a commented filter moved into the code of its line.  What precedes the
marker is cut again, since an earlier marker of the other kind would keep the clause a comment. -/
def uncomment (s : Text) (found : CommentedFilter) : Text :=
  normalise (Text.unlines (s.lines.set found.line (codePart found.before ++ ' ' :: found.clause)))

/-- Puts the first commented filter of a statement into effect. -/
def activate? (s : Text) : Option Activation :=
  match commentedFilter? s with
  | none => none
  | some found =>
    if hasActiveFilter (uncomment s found) then
      some { text := uncomment s found, clause := found.clause }
    else
      none

/-- Whether a statement with this report is to be repaired. -/
def needsRepair (s : Text) (report : StatementReport) : Bool :=
  !report.valid && needsFilter report.kind && !hasActiveFilter s && hasCommentedFilter s

/-- The repair of a statement with this report. -/
def repairStatement? (s : Text) (report : StatementReport) : Option Activation :=
  if needsRepair s report then activate? s else none

/-! ### A whole input -/

/-- The outcome of repairing an input of type `α`. -/
structure Repair (α : Type) where
  /-- The input. -/
  input : α
  /-- The input after the repair. -/
  fixed : α
  /-- One line for each statement that was repaired. -/
  fixes : List String
  /-- The report on the repaired input. -/
  validation : Report
deriving DecidableEq

/-- The line that tells of a repair. -/
def fixMessage (index : Int) (clause : Text) : String :=
  s!"Query {index}: Activated WHERE clause from comment: " ++ String.ofList clause

/-- The statement that takes the place of another. -/
def Activation.textOr (s : Text) : Option Activation → Text
  | some a => a.text
  | none => s

/-- The input made of statements with their reports, each repaired if it needs to be. -/
def mendedInput (pairs : List (Text × StatementReport)) : Text :=
  rejoin (pairs.map fun p => Activation.textOr p.1 (repairStatement? p.1 p.2))

/-- The lines that tell of the repairs among statements with their reports. -/
def fixMessages (pairs : List (Text × StatementReport)) : List String :=
  pairs.filterMap fun p => (repairStatement? p.1 p.2).map fun a => fixMessage p.2.index a.clause

/-- The outcome of a repair, with the report on what it left. -/
def Repair.ofFixed (rules : Rules) (input fixed : Text) (fixes : List String) : Repair Text :=
  { input, fixed, fixes, validation := validate rules fixed }

/-- Repairs an input with this report.  One that is valid, or has no statements, stays as it
is. -/
def repairReported (rules : Rules) (input : Text) (report : Report) : Repair Text :=
  if report.isValid || report.statements.isEmpty then
    .ofFixed rules input input []
  else
    .ofFixed rules input (mendedInput ((statements input).zip report.statements))
      (fixMessages ((statements input).zip report.statements))

/-- Repairs each statement of an input that is not valid, and reports on the outcome. -/
def repair (rules : Rules) (input : Text) : Repair Text :=
  repairReported rules input (validate rules input)

/-- Repairs an input again and again; each pass takes what the one before it left. -/
def repairPasses (rules : Rules) : Nat → Text → List (Repair Text)
  | 0, _ => []
  | n + 1, input =>
    let outcome := repair rules input
    outcome :: repairPasses rules n outcome.fixed

end SqlGuard
