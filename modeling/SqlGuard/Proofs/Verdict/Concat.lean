/-
The report on two inputs joined by a semicolon.

A semicolon divides an input for good, and each statement is judged by itself; so the two
halves of a joined input are reported on as if each stood alone.  All that changes is the
numbering of the second half, and it shows in two places: the number of the statement, and
the label in front of each of its messages.  `StatementReport.renumber` makes these two
changes and no other.

What is summed up over a report then adds up, and the verdict on the whole is the
conjunction of the verdicts on the halves, except that one of them may be empty.
-/
import SqlGuard.Proofs.Verdict.Meaning

namespace SqlGuard

/-! ### Renumbering -/

/-- What stands in front of every message on the statement with a given number. -/
def messageLabel (index : Int) : String :=
  s!"[Query {index}] "

/-- A message with the label of one statement replaced by that of another. -/
def relabel (old new : Int) (message : String) : String :=
  if (messageLabel old).toList.isPrefixOf message.toList then
    messageLabel new ++ String.ofList (message.toList.drop (messageLabel old).toList.length)
  else
    message

/-- The report on a statement that comes later by some statements. -/
def StatementReport.renumber (later : Nat) (r : StatementReport) : StatementReport :=
  { r with
    index := r.index + later
    errors := r.errors.map (relabel r.index (r.index + later))
    warnings := r.warnings.map (relabel r.index (r.index + later)) }

theorem relabel_message (old new : Int) (f : Finding) :
    relabel old new (f.message old) = f.message new := by
  have hlist : (f.message old).toList = (messageLabel old).toList ++ f.text.toList :=
    String.toList_append
  have hlabel : (messageLabel old).toList.isPrefixOf (f.message old).toList = true := by
    rw [hlist]
    exact List.isPrefixOf_iff_prefix.2 (List.prefix_append _ _)
  unfold relabel
  rw [if_pos hlabel, hlist, List.drop_left, String.ofList_toList]
  rfl

theorem map_relabel_message (old new : Int) (fs : List Finding) :
    (fs.map (·.message old)).map (relabel old new) = fs.map (·.message new) := by
  rw [List.map_map]
  refine List.map_congr_left fun f _ => ?_
  exact relabel_message old new f

/-- **The number of a statement shows in its report as a number and in labels only.** -/
theorem checkStatement_add (rules : Rules) (index : Int) (later : Nat) (s : Text) :
    checkStatement rules (index + later) s = (checkStatement rules index s).renumber later := by
  cases hc : hasCommentedFilter s with
  | true =>
      rw [checkStatement_of_commented hc, checkStatement_of_commented hc]
      simp [StatementReport.renumber, relabel_message]
  | false =>
      rw [checkStatement_of_uncommented hc, checkStatement_of_uncommented hc]
      simp only [StatementReport.renumber, map_relabel_message]

/-- Statements behind others are reported on as they are alone, but for their numbers. -/
theorem checkStatements_append (rules : Rules) (ss ss' : List Text) :
    checkStatements rules (ss ++ ss') =
      checkStatements rules ss ++
        (checkStatements rules ss').map (·.renumber ss.length) := by
  have hlater : ∀ p : Text × Nat,
      checkStatement rules ((p.2 + ss.length : Nat) + 1) p.1 =
        (checkStatement rules (p.2 + 1) p.1).renumber ss.length := by
    intro p
    rw [← checkStatement_add]
    congr 1
    omega
  unfold checkStatements
  rw [List.mapIdx_append]
  congr 1
  rw [List.mapIdx_eq_zipIdx_map, List.mapIdx_eq_zipIdx_map, List.map_map]
  exact List.map_congr_left fun p _ => hlater p

/-! ### Two inputs -/

theorem statementCount_validate (rules : Rules) (t : Text) :
    (validate rules t).statementCount = (statements t).length := by
  unfold Report.statementCount
  rw [statements_validate, checkStatements, List.length_mapIdx]

theorem statements_validate_append (rules : Rules) (t₁ t₂ : Text) :
    (validate rules (t₁ ++ ';' :: t₂)).statements =
      (validate rules t₁).statements ++
        (validate rules t₂).statements.map (·.renumber (statements t₁).length) := by
  rw [statements_validate, statements_append, checkStatements_append, statements_validate,
    statements_validate]

/-- What is counted among the statements of a joined input adds up, if it does not depend on
their numbers. -/
theorem countP_validate_append {p : StatementReport → Bool}
    (hp : ∀ later r, p (StatementReport.renumber later r) = p r) (rules : Rules) (t₁ t₂ : Text) :
    (validate rules (t₁ ++ ';' :: t₂)).statements.countP p =
      (validate rules t₁).statements.countP p + (validate rules t₂).statements.countP p := by
  rw [statements_validate_append, List.countP_append, List.countP_map]
  congr 2
  funext r
  exact hp _ r

/-- **The report on two inputs joined by a semicolon is made of the reports on each.**  The
statements are those of the one and then those of the other, reported on as they are alone
except that the later ones are renumbered.  The counts add up, and the first of them is that of
the statements.  And the whole is valid when it has a statement and neither half has one that is
not valid. -/
theorem validate_append (rules : Rules) (t₁ t₂ : Text) :
    statements (t₁ ++ ';' :: t₂) = statements t₁ ++ statements t₂ ∧
      (validate rules (t₁ ++ ';' :: t₂)).statements =
        (validate rules t₁).statements ++ (validate rules t₂).statements.map
          (·.renumber (statements t₁).length) ∧
      (validate rules (t₁ ++ ';' :: t₂)).statementCount =
        (validate rules t₁).statementCount + (validate rules t₂).statementCount ∧
      (validate rules (t₁ ++ ';' :: t₂)).validCount =
        (validate rules t₁).validCount + (validate rules t₂).validCount ∧
      (validate rules (t₁ ++ ';' :: t₂)).dangerousCount =
        (validate rules t₁).dangerousCount + (validate rules t₂).dangerousCount ∧
      (validate rules (t₁ ++ ';' :: t₂)).activeFilterCount =
        (validate rules t₁).activeFilterCount + (validate rules t₂).activeFilterCount ∧
      (validate rules (t₁ ++ ';' :: t₂)).statementCount =
        (statements (t₁ ++ ';' :: t₂)).length ∧
      ((validate rules (t₁ ++ ';' :: t₂)).isValid = true ↔
        statements (t₁ ++ ';' :: t₂) ≠ [] ∧
          (∀ r ∈ (validate rules t₁).statements, r.valid = true) ∧
          ∀ r ∈ (validate rules t₂).statements, r.valid = true) := by
  refine ⟨statements_append t₁ t₂, statements_validate_append rules t₁ t₂, ?_, ?_, ?_, ?_,
    statementCount_validate rules _, ?_⟩
  · rw [statementCount_validate, statementCount_validate, statementCount_validate,
      statements_append, List.length_append]
  · exact countP_validate_append (fun _ _ => rfl) rules t₁ t₂
  · exact countP_validate_append (fun _ _ => rfl) rules t₁ t₂
  · exact countP_validate_append (fun _ _ => rfl) rules t₁ t₂
  · -- The statements of the whole are permitted when those of both halves are.
    rw [isValid_iff_permitted, statements_append, List.forall_mem_append, statements_validate,
      statements_validate, checkStatements_valid_iff, checkStatements_valid_iff]

end SqlGuard
