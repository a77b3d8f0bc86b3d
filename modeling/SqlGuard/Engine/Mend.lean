/-
Repairing, component by component.

A repair checks the input, mends the statements that need it, and checks what came out.  Only
the two checks catch faults; a fault while a statement is mended ends the whole repair.
-/
import SqlGuard.Engine.Check
import SqlGuard.Repair

namespace SqlGuard.Engine

/-! ### One statement -/

/-- Whether a statement with this report is to be repaired.  The scanners are asked only about
an invalid statement that needs a filter, and the second only if the first found none. -/
def needsRepair (s : Text) (report : StatementReport) : Engine Bool := do
  enter .needsRepair
  if report.valid || !needsFilter report.kind then
    return false
  else if ← hasActiveFilter s then
    return false
  else
    hasCommentedFilter s

/-- Puts the first commented filter of a statement into effect. -/
def activate (s : Text) : Engine (Option Activation) := do
  enter .activate
  enter .extract
  match commentedFilter? s with
  | none => return none
  | some found =>
    enter .codePart
    enter .normalise
    let text := uncomment s found
    if ← hasActiveFilter text then
      return some { text, clause := found.clause }
    else
      return none

/-- The message that tells of a repaired statement. -/
def fixedMessage (index : Int) (s : Text) : String :=
  s!"Fixed query {index}: " ++ String.ofList s

/-- The statement that takes the place of one with this report, and what was fixed about it. -/
def mend (s : Text) (report : StatementReport) : Engine (Text × Option String) := do
  if ← needsRepair s report then
    match ← activate s with
    | none => return (s, none)
    | some a =>
      note .info (fixedMessage report.index a.text)
      return (a.text, some (fixMessage report.index a.clause))
  else
    return (s, none)

/-! ### A whole input -/

/-- Mends the statements of an input with this report. -/
def mendAll (input : Submission) (report : Report) : Engine (Submission × List String) := do
  let ss ← split input
  let mended ← (ss.zip report.statements).mapM fun (s, r) => mend s r
  return (.text (rejoin (mended.map Prod.fst)), mended.filterMap Prod.snd)

/-- Repairs what was handed in. -/
def repair (rules : Rules) (input : Submission) : Engine (Repair Submission) := do
  enter .repair
  let before ← validate rules input
  let (fixed, fixes) ←
    if before.isValid || before.statements.isEmpty then
      pure (input, [])
    else
      mendAll input before
  let validation ← validate rules fixed
  return { input, fixed, fixes, validation }

/-- Repairs what was handed in again and again; each pass takes what the one before it left. -/
def repairPasses (rules : Rules) : Nat → Submission → Engine (List (Repair Submission))
  | 0, _ => return []
  | n + 1, input => do
    let outcome ← repair rules input
    let later ← repairPasses rules n outcome.fixed
    return outcome :: later

end SqlGuard.Engine

namespace SqlGuard

/-- Whether what was handed in, with this report, is to be repaired.  It need not be a text as
long as the report alone says no. -/
def Submission.needsRepair (report : StatementReport) (s : Submission) : Except Fault Bool :=
  if report.valid || !needsFilter report.kind then
    .ok false
  else
    (s.textFor "split").map (SqlGuard.needsRepair · report)

end SqlGuard
