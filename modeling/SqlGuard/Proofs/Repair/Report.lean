/-
A repair never makes a report worse.

The report on a repaired input is the report on the mended statements, one for one and
under the same numbers.  So the two reports are compared position by position: where no
repair is told of, the statement is the same and so is what is said of it; a valid
statement has no commented filter and is left alone; and a statement that becomes valid
owes this to the filter that was put into effect.  The counts follow by summing up.
-/
import SqlGuard.Proofs.Repair.Input

namespace SqlGuard

open Text

/-! ### One statement -/

/-- A statement becomes valid by the filter that was put into effect. -/
theorem hasActiveFilter_of_becomes_valid {rules : Rules} {index : Int} {s : Text}
    (hbefore : (checkStatement rules index s).valid = false)
    (hafter : (checkStatement rules index (mended s)).valid = true) :
    (checkStatement rules index (mended s)).hasActiveFilter = true := by
  have hne : mended s ≠ s := by
    intro heq
    rw [heq, hbefore] at hafter
    simp at hafter
  obtain ⟨-, -, -, -, -, hactive⟩ := exists_of_mended_ne hne
  rw [checkStatement_hasActiveFilter hafter]
  exact hactive

/-! ### Position by position -/

/-- A statement that changed is named by its number. -/
theorem exists_fixMessage_of_mended_ne {ss : List Text} {i : Nat} {s : Text}
    (hi : ss[i]? = some s) (h : mended s ≠ s) :
    ∃ clause, fixMessage (i + 1) clause ∈ fixLines ss := by
  obtain ⟨found, hfound, -⟩ := exists_of_mended_ne h
  exact ⟨found.clause, fixMessage_mem_fixLines hi hfound h⟩

/-- What every position of the two reports satisfies is found at their statements. -/
theorem forall_positions {rules : Rules} {t : Text}
    {P : StatementReport → StatementReport → Prop}
    (h : ∀ (i : Nat) (s : Text), (statements t)[i]? = some s →
      P (checkStatement rules (i + 1) s) (checkStatement rules (i + 1) (mended s))) :
    ∀ (i : Nat) (b a : StatementReport), (validate rules t).statements[i]? = some b →
      (repair rules t).validation.statements[i]? = some a → P b a := by
  intro i b a hb ha
  rw [getElem?_validate] at hb
  rw [getElem?_validation] at ha
  obtain ⟨s, hs, rfl⟩ := Option.map_eq_some_iff.1 hb
  obtain ⟨s', hs', rfl⟩ := Option.map_eq_some_iff.1 ha
  obtain rfl : s = s' := Option.some.inj (hs.symm.trans hs')
  exact h i s hs

/-! ### Counts -/

theorem validation_statements (rules : Rules) (t : Text) :
    (repair rules t).validation.statements =
      (statements t).zipIdx.map fun p => checkStatement rules (p.2 + 1) (mended p.1) := by
  rw [validation_eq, statements_validate, statements_fixed, checkStatements_eq_map,
    List.zipIdx_map, List.map_map]
  rfl

theorem statementCount_validation (rules : Rules) (t : Text) :
    (repair rules t).validation.statementCount = (validate rules t).statementCount := by
  unfold Report.statementCount
  rw [validation_statements, statements_validate, checkStatements_eq_map]
  simp

theorem validCount_le (rules : Rules) (t : Text) :
    (validate rules t).validCount ≤ (repair rules t).validation.validCount := by
  unfold Report.validCount
  rw [validation_statements, statements_validate, checkStatements_eq_map, List.countP_map,
    List.countP_map]
  refine List.countP_mono_left ?_
  intro p _ hvalid
  simp only [Function.comp_apply] at hvalid ⊢
  rw [mended_of_valid hvalid]
  exact hvalid

theorem dangerousCount_le (rules : Rules) (t : Text) :
    (repair rules t).validation.dangerousCount ≤ (validate rules t).dangerousCount := by
  unfold Report.dangerousCount
  rw [validation_statements, statements_validate, checkStatements_eq_map, List.countP_map,
    List.countP_map]
  refine List.countP_mono_left ?_
  intro p _ hinvalid
  simp only [Function.comp_apply, Bool.not_eq_true'] at hinvalid ⊢
  -- Had the statement been valid before, it would be the same statement still.
  cases hvalid : (checkStatement rules (p.2 + 1) p.1).valid with
  | false => rfl
  | true =>
      rw [mended_of_valid hvalid, hvalid] at hinvalid
      exact hinvalid

/-! ### The whole report -/

/-- The report on an input depends on its statements only. -/
theorem validate_congr {rules : Rules} {t t' : Text} (h : statements t = statements t') :
    validate rules t = validate rules t' := by
  unfold validate
  rw [h]

/-- **A repair never makes a report worse.**  The statements keep their number.  Where no
repair is told of, the report on the statement is the same; a valid statement stays valid,
so that valid ones do not get fewer nor dangerous ones more; one that becomes valid has an
active filter; and without any repair the whole report is the same. -/
theorem repair_report_not_worse (rules : Rules) (t : Text) :
    (repair rules t).validation.statementCount = (validate rules t).statementCount ∧
      (∀ i : Nat, (∀ clause, fixMessage (i + 1) clause ∉ (repair rules t).fixes) →
        (repair rules t).validation.statements[i]? = (validate rules t).statements[i]?) ∧
      (∀ (i : Nat) (b a : StatementReport), (validate rules t).statements[i]? = some b →
        (repair rules t).validation.statements[i]? = some a →
        b.valid = true → a.valid = true) ∧
      (validate rules t).validCount ≤ (repair rules t).validation.validCount ∧
      (repair rules t).validation.dangerousCount ≤ (validate rules t).dangerousCount ∧
      (∀ (i : Nat) (b a : StatementReport), (validate rules t).statements[i]? = some b →
        (repair rules t).validation.statements[i]? = some a →
        b.valid = false → a.valid = true → a.hasActiveFilter = true) ∧
      ((repair rules t).fixes = [] → (repair rules t).validation = validate rules t) := by
  refine ⟨statementCount_validation rules t, ?_, ?_, validCount_le rules t,
    dangerousCount_le rules t, ?_, ?_⟩
  · intro i hunnamed
    rw [getElem?_validate, getElem?_validation]
    cases hs : (statements t)[i]? with
    | none => rfl
    | some s =>
        by_cases hsame : mended s = s
        · simp [hsame]
        · obtain ⟨clause, hclause⟩ := exists_fixMessage_of_mended_ne hs hsame
          rw [← fixes_eq rules t] at hclause
          exact absurd hclause (hunnamed clause)
  · refine forall_positions ?_
    intro i s _ hvalid
    rw [mended_of_valid hvalid]
    exact hvalid
  · refine forall_positions ?_
    intro i s _
    exact hasActiveFilter_of_becomes_valid
  · intro hnone
    rw [fixes_eq, fixLines_eq_nil_iff] at hnone
    rw [validation_eq]
    refine validate_congr ?_
    rw [statements_fixed, map_mended_of_forall hnone]

end SqlGuard
