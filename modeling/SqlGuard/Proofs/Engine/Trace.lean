/-
What the engine does where nothing broken is reached.

A broken component does harm only when a step gets to it.  `Checkable` says of an input
that checking it gets to none, and then the engine reports what the plain functions say and
writes a log that is known record by record: one record for the division, one for each
statement, one for the report.

A repair goes on to components that the check did not need.  It reaches them only on behalf
of an UPDATE or DELETE, and such a statement has a line of code, so the check must have been
through all of the scanners already.  The one scanner that a check can miss reads the code of
a line; where it was missed, every line is a comment, the statement is of no kind, and
nothing is repaired.
-/
import SqlGuard.Engine.Mend
import SqlGuard.Proofs.Engine.Run
import SqlGuard.Proofs.Repair.Input
import SqlGuard.Proofs.Statement.Block

namespace SqlGuard

/-! ### Statements without code -/

/-- A statement that is nothing but comment lines is of no kind. -/
theorem kind_of_comment_lines {s : Text} (h : ∀ line ∈ s.lines, isCommentLine line = true) :
    kind s = "UNKNOWN" := by
  have hwords : (dropLineComments s).words = Text.words [] := by
    rw [words_dropLineComments, Text.words_nil, List.flatMap_eq_nil_iff]
    intro line hline
    rw [← words_codePart, codePart_of_isCommentLine (h line hline), Text.words_nil]
  rw [kind_congr hwords, dropBlockComments_nil, leadingKeyword, Text.words_nil]

namespace Engine

variable {faults : Faults}

/-! ### Which inputs can be checked -/

/-- The components that the check of a statement reaches, whatever the statement. -/
def statementComponents : List Component :=
  [.checkStatement, .kind, .clean, .activeFilter, .commentLine, .commentedFilter]

/-- Checking the statement reaches no broken component. -/
structure Scannable (faults : Faults) (s : Text) : Prop where
  working : ∀ c ∈ statementComponents, faults c = none
  /-- The code of a line is read unless the line is a comment. -/
  code : faults .codePart = none ∨ ∀ line ∈ s.lines, SqlGuard.isCommentLine line = true

/-- Checking the input reaches no broken component below the check itself. -/
structure Checkable (faults : Faults) (input : Text) : Prop where
  divided : faults .split = none
  scanned : ∀ s ∈ statements input, Scannable faults s

/-- The components that scan an input: those below the check of a whole input. -/
def scanners : List Component :=
  .split :: .codePart :: statementComponents

/-- No component but the scanners is broken. -/
def OnlyScanners (faults : Faults) : Prop :=
  ∀ c, c ∉ scanners → faults c = none

theorem onlyScanners_noFaults : OnlyScanners noFaults :=
  fun _ _ => rfl

theorem checkable_noFaults (input : Text) : Checkable noFaults input :=
  ⟨rfl, fun _ _ => ⟨fun _ _ => rfl, Or.inl rfl⟩⟩

/-! ### The scanners -/

theorem gives_codePart (h : faults .codePart = none) (line : Text) :
    Gives faults (codePart line) (.ok (SqlGuard.codePart line)) [] :=
  (Gives.enter h).bind_silent (.pure _)

theorem gives_clean (h : faults .clean = none) (s : Text) :
    Gives faults (clean s) (.ok (SqlGuard.clean s)) [] :=
  (Gives.enter h).bind_silent (.pure _)

theorem gives_isFiltered (hline : faults .commentLine = none) {line : Text}
    (hcode : faults .codePart = none ∨ SqlGuard.isCommentLine line = true) :
    Gives faults (isFiltered line)
      (.ok (!SqlGuard.isCommentLine line && mentionsFilter (SqlGuard.codePart line))) [] := by
  have hfirst : Gives faults (isCommentLine line) (.ok (SqlGuard.isCommentLine line)) [] :=
    (Gives.enter hline).bind_silent (.pure _)
  refine hfirst.bind_silent ?_
  cases hc : SqlGuard.isCommentLine line with
  | true => exact .pure false
  | false =>
      rw [hc] at hcode
      have hworks : faults .codePart = none := hcode.resolve_right (by simp)
      exact (gives_codePart hworks line).bind_silent (.pure _)

theorem gives_hasActiveFilter (hactive : faults .activeFilter = none)
    (hline : faults .commentLine = none) {s : Text}
    (hcode : faults .codePart = none ∨ ∀ line ∈ s.lines, SqlGuard.isCommentLine line = true) :
    Gives faults (hasActiveFilter s) (.ok (SqlGuard.hasActiveFilter s)) [] := by
  refine (Gives.enter hactive).bind_silent (.anyM ?_)
  intro line hmem
  exact gives_isFiltered hline (hcode.imp_right fun hall => hall line hmem)

theorem gives_hasCommentedFilter (hcommented : faults .commentedFilter = none)
    (hline : faults .commentLine = none) (s : Text) :
    Gives faults (hasCommentedFilter s) (.ok (SqlGuard.hasCommentedFilter s)) [] := by
  refine (Gives.enter hcommented).bind_silent (.anyM ?_)
  intro line _
  exact (Gives.enter hline).bind_silent (.pure _)

theorem gives_kind (hkind : faults .kind = none) (hclean : faults .clean = none) (s : Text) :
    Gives faults (kind s) (.ok (SqlGuard.kind s)) [] := by
  refine (Gives.enter hkind).bind_silent ?_
  exact (gives_clean hclean s).bind_silent (.pure _)

section Scannable

variable {s : Text} (h : Scannable faults s)
include h

theorem Scannable.gives_hasActiveFilter :
    Gives faults (hasActiveFilter s) (.ok (SqlGuard.hasActiveFilter s)) [] :=
  Engine.gives_hasActiveFilter (h.working _ (by decide)) (h.working _ (by decide)) h.code

theorem Scannable.gives_hasCommentedFilter :
    Gives faults (hasCommentedFilter s) (.ok (SqlGuard.hasCommentedFilter s)) [] :=
  Engine.gives_hasCommentedFilter (h.working _ (by decide)) (h.working _ (by decide)) s

end Scannable

/-! ### Checking -/

/-- The record of a division. -/
def splitRecords (input : Text) : List Record :=
  if input.isEmpty then []
  else [{ severity := .debug
          message := s!"Split input into {(statements input).length} statement(s)" }]

/-- The record of what the scanners said of a statement. -/
def scanRecord (index : Int) (s : Text) : Record where
  severity := .debug
  message := scanMessage index (scan s)

/-- The record of a finished report. -/
def completedRecord (r : Report) : Record where
  severity := .debug
  message := completedMessage r

/-- The records of a check. -/
def checkRecords (rules : Rules) (input : Text) : List Record :=
  splitRecords input ++ (statements input).zipIdx.map (fun p => scanRecord (p.2 + 1) p.1) ++
    [completedRecord (SqlGuard.validate rules input)]

theorem gives_split (h : faults .split = none) (input : Text) :
    Gives faults (split (.text input)) (.ok (statements input)) (splitRecords input) := by
  refine (Gives.enter h).bind_silent ?_
  cases input with
  | nil =>
      rw [statements_nil]
      exact .pure []
  | cons c input => exact (Gives.note _ _).bind (.pure _)

theorem gives_checkStatement {s : Text} (h : Scannable faults s) (rules : Rules) (index : Int) :
    Gives faults (checkStatement rules index s)
      (.ok (SqlGuard.checkStatement rules index s)) [scanRecord index s] := by
  refine (Gives.enter (h.working _ (by decide))).bind_silent ?_
  refine (gives_kind (h.working _ (by decide)) (h.working _ (by decide)) s).bind_silent ?_
  refine h.gives_hasActiveFilter.bind_silent (h.gives_hasCommentedFilter.bind_silent ?_)
  exact (Gives.note _ _).bind (.pure _)

/-- The report does not depend on how the statements are numbered on the way. -/
theorem map_zipIdx_checkStatement (rules : Rules) (ss : List Text) :
    (ss.zipIdx.map fun p => SqlGuard.checkStatement rules (p.2 + 1) p.1) =
      checkStatements rules ss := by
  simp [checkStatements, List.mapIdx_eq_zipIdx_map]

theorem gives_assess {input : Text} (h : Checkable faults input) (rules : Rules) :
    Gives faults (assess rules (.text input)) (.ok (SqlGuard.validate rules input))
      (checkRecords rules input) := by
  have hreports : Gives faults
      ((statements input).zipIdx.mapM fun p => checkStatement rules (p.2 + 1) p.1)
      (.ok (checkStatements rules (statements input)))
      ((statements input).zipIdx.map fun p => scanRecord (p.2 + 1) p.1) := by
    have hall : ∀ p ∈ (statements input).zipIdx,
        Gives faults (checkStatement rules (p.2 + 1) p.1)
          (.ok (SqlGuard.checkStatement rules (p.2 + 1) p.1)) [scanRecord (p.2 + 1) p.1] := by
      intro p hp
      have hmem : p.1 ∈ statements input :=
        List.mem_of_getElem? (List.mk_mem_zipIdx_iff_getElem?.1 hp)
      exact gives_checkStatement (h.scanned p.1 hmem) rules (p.2 + 1)
    have hmap := Gives.mapM hall
    rwa [map_zipIdx_checkStatement, ← List.map_eq_flatMap] at hmap
  unfold checkRecords
  rw [List.append_assoc]
  refine (gives_split h.divided input).bind (hreports.bind ?_)
  exact (Gives.note _ _).bind (.pure _)

/-- **A check that reaches nothing broken reports what `validate` says.** -/
theorem gives_validate (hother : OnlyScanners faults) {input : Text}
    (h : Checkable faults input) (rules : Rules) :
    Gives faults (validate rules (.text input)) (.ok (SqlGuard.validate rules input))
      (checkRecords rules input) :=
  (Gives.enter (hother _ (by decide))).bind_silent ((gives_assess h rules).recover_ok _)

/-! ### Repairing a statement -/

/-- The record of a repaired statement. -/
def fixedRecord (index : Int) (a : Activation) : Record where
  severity := .info
  message := fixedMessage index a.text

/-- The records of mending statements with their reports. -/
def mendRecords (pairs : List (Text × StatementReport)) : List Record :=
  pairs.filterMap fun p => (repairStatement? p.1 p.2).map (fixedRecord p.2.index)

section Mend

variable (hother : OnlyScanners faults) {s : Text}
include hother

theorem gives_needsRepair (h : Scannable faults s) (report : StatementReport) :
    Gives faults (needsRepair s report) (.ok (SqlGuard.needsRepair s report)) [] := by
  refine (Gives.enter (hother _ (by decide))).bind_silent ?_
  unfold SqlGuard.needsRepair
  cases report.valid with
  | true => exact .pure false
  | false =>
      cases needsFilter report.kind with
      | false => exact .pure false
      | true =>
          refine h.gives_hasActiveFilter.bind_silent ?_
          cases SqlGuard.hasActiveFilter s with
          | true => exact .pure false
          | false => simpa using h.gives_hasCommentedFilter

/-- A rewrite reads code, and looks for a filter in a text that was not checked. -/
theorem gives_activate (hactive : faults .activeFilter = none)
    (hline : faults .commentLine = none) (hcode : faults .codePart = none) :
    Gives faults (activate s) (.ok (activate? s)) [] := by
  refine (Gives.enter (hother _ (by decide))).bind_silent ?_
  refine (Gives.enter (hother _ (by decide))).bind_silent ?_
  unfold activate?
  cases commentedFilter? s with
  | none => exact .pure none
  | some found =>
      refine (Gives.enter hcode).bind_silent ?_
      refine (Gives.enter (hother _ (by decide))).bind_silent ?_
      refine (gives_hasActiveFilter hactive hline (Or.inl hcode)).bind_silent ?_
      dsimp only
      cases SqlGuard.hasActiveFilter (uncomment s found) with
      | false => exact .pure none
      | true => exact .pure (some _)

theorem gives_mend (h : Scannable faults s) {report : StatementReport}
    (hkind : report.kind = SqlGuard.kind s) :
    Gives faults (mend s report)
      (.ok (Activation.textOr s (repairStatement? s report),
        (repairStatement? s report).map fun a => fixMessage report.index a.clause))
      ((repairStatement? s report).map (fixedRecord report.index)).toList := by
  refine (gives_needsRepair hother h report).bind_silent ?_
  unfold repairStatement?
  cases hneeds : SqlGuard.needsRepair s report with
  | false => exact .pure (s, none)
  | true =>
      -- The statement is an UPDATE or DELETE, so its code was read when it was checked.
      have hcode : faults .codePart = none := by
        rcases h.code with hworks | hcomments
        · exact hworks
        · unfold SqlGuard.needsRepair at hneeds
          rw [hkind, kind_of_comment_lines hcomments] at hneeds
          simp [needsFilter] at hneeds
      refine (gives_activate hother (h.working _ (by decide)) (h.working _ (by decide))
        hcode).bind_silent ?_
      simp only [if_true]
      cases activate? s with
      | none => exact .pure (s, none)
      | some a => exact (Gives.note _ _).bind (.pure _)

end Mend

/-- What a repair leaves can be checked if the input could. -/
theorem Scannable.mended {s : Text} (h : Scannable faults s) : Scannable faults (mended s) := by
  refine ⟨h.working, ?_⟩
  rcases h.code with hworks | hcomments
  · exact Or.inl hworks
  · have hkept : SqlGuard.mended s = s := by
      simp [SqlGuard.mended, isRepairable, kind_of_comment_lines hcomments, needsFilter]
    rw [hkept]
    exact Or.inr hcomments

/-! ### Repairing an input -/

/-- The records of a repair: those of the check, of the statements that are mended, and of the
check of what comes out. -/
def repairRecords (rules : Rules) (input : Text) : List Record :=
  let before := SqlGuard.validate rules input
  checkRecords rules input ++
    (if before.isValid || before.statements.isEmpty then []
      else splitRecords input ++ mendRecords ((statements input).zip before.statements)) ++
    checkRecords rules (SqlGuard.repair rules input).fixed

section Repair

variable (hother : OnlyScanners faults) {input : Text} (h : Checkable faults input)
include h

theorem Checkable.fixed (rules : Rules) :
    Checkable faults (SqlGuard.repair rules input).fixed := by
  refine ⟨h.divided, ?_⟩
  intro s hs
  rw [statements_fixed] at hs
  obtain ⟨s', hs', rfl⟩ := List.mem_map.1 hs
  exact (h.scanned s' hs').mended

include hother

theorem gives_mendAll (rules : Rules) :
    Gives faults (mendAll (.text input) (SqlGuard.validate rules input))
      (.ok (.text (mendedInput ((statements input).zip
          (SqlGuard.validate rules input).statements)),
        fixMessages ((statements input).zip (SqlGuard.validate rules input).statements)))
      (splitRecords input ++ mendRecords ((statements input).zip
        (SqlGuard.validate rules input).statements)) := by
  refine (gives_split h.divided input).bind ?_
  have hall : ∀ p ∈ (statements input).zip (SqlGuard.validate rules input).statements,
      Gives faults (mend p.1 p.2)
        (.ok (Activation.textOr p.1 (repairStatement? p.1 p.2),
          (repairStatement? p.1 p.2).map fun a => fixMessage p.2.index a.clause))
        ((repairStatement? p.1 p.2).map (fixedRecord p.2.index)).toList := by
    intro p hp
    rw [zip_statements_validate] at hp
    obtain ⟨q, hq, rfl⟩ := List.mem_map.1 hp
    have hmem : q.1 ∈ statements input :=
      List.mem_of_getElem? (List.mk_mem_zipIdx_iff_getElem?.1 hq)
    exact gives_mend hother (h.scanned q.1 hmem) (checkStatement_kind rules _ q.1)
  have hmended := Gives.mapM hall
  rw [← List.filterMap_eq_flatMap_toList] at hmended
  rw [← List.append_nil (mendRecords _)]
  refine hmended.bind ?_
  rw [mendedInput, fixMessages, List.map_map, List.filterMap_map]
  exact .pure _

/-- A repaired text as the repair of a submission. -/
def ofTextRepair (r : Repair Text) : Repair Submission :=
  { input := .text r.input, fixed := .text r.fixed, fixes := r.fixes, validation := r.validation }

/-- **A repair whose check reaches nothing broken reaches nothing broken at all.** -/
theorem gives_repair (rules : Rules) :
    Gives faults (repair rules (.text input)) (.ok (ofTextRepair (SqlGuard.repair rules input)))
      (repairRecords rules input) := by
  have hafter := gives_validate hother (h.fixed rules) rules
  refine (Gives.enter (hother _ (by decide))).bind_silent ?_
  unfold repairRecords
  rw [List.append_assoc]
  refine (gives_validate hother h rules).bind ?_
  revert hafter
  unfold SqlGuard.repair repairReported
  cases (SqlGuard.validate rules input).isValid ||
      (SqlGuard.validate rules input).statements.isEmpty with
  | false =>
      intro hafter
      refine (gives_mendAll hother h rules).bind ?_
      rw [← List.append_nil (checkRecords _ _)]
      exact hafter.bind (.pure _)
  | true =>
      intro hafter
      refine (Gives.pure (Submission.text input, ([] : List String))).bind ?_
      rw [← List.append_nil (checkRecords _ _)]
      exact hafter.bind (.pure _)

end Repair

end Engine

end SqlGuard
