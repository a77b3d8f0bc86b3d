/-
The form in which outcomes are answered.

Every outcome is answered as an object with fixed member names.  The counts of a report are
written out beside the statements they are read off.
-/
import SqlGuard.Json.Basic
import SqlGuard.Repair

namespace SqlGuard

/-- A list of texts as an array. -/
def Json.ofStrings (ss : List String) : Json :=
  .arr (ss.map .str)

/-- A count as a number. -/
def Json.ofNat (n : Nat) : Json :=
  .int n

/-- The members of a statement report. -/
def StatementReport.members (r : StatementReport) : List (String × Json) :=
  [("valid", .bool r.valid),
    ("errors", .ofStrings r.errors),
    ("warnings", .ofStrings r.warnings),
    ("kind", .str r.kind),
    ("hasActiveFilter", .bool r.hasActiveFilter),
    ("index", .int r.index)]

/-- The members of a report. -/
def Report.members (r : Report) : List (String × Json) :=
  [("isValid", .bool r.isValid),
    ("errors", .ofStrings r.errors),
    ("warnings", .ofStrings r.warnings),
    ("kind", .str r.kind),
    ("hasActiveFilter", .bool r.hasActiveFilter),
    ("statementCount", .ofNat r.statementCount),
    ("validCount", .ofNat r.validCount),
    ("dangerousCount", .ofNat r.dangerousCount),
    ("activeFilterCount", .ofNat r.activeFilterCount),
    ("individualResults", .arr (r.statements.map fun s => .obj s.members))]

/-- The members of a repair, given how its input is answered. -/
def Repair.members {α : Type} (inputJson : α → Json) (r : Repair α) : List (String × Json) :=
  [("originalText", inputJson r.input),
    ("fixedText", inputJson r.fixed),
    ("fixesApplied", .ofStrings r.fixes),
    ("validation", .obj r.validation.members)]

/-- The members of a rule set. -/
def Rules.members (rules : Rules) : List (String × Json) :=
  Rule.all.map fun rule => (rule.fieldName, .bool (rules.get rule))

end SqlGuard
