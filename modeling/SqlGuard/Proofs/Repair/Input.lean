/-
Repairing an input is repairing its statements.

The repair of an input looks at the whole report before it does anything, and pairs the
statements with their reports by position.  None of this shows in the outcome: what it
leaves divides into the statements of the input, each of them mended, and its lines tell of
exactly those that changed.  An input that is kept as it is has no statement to mend, so
the two ways through the repair meet.

The rules do not appear in that description, and a mended statement is not mended again;
so the outcome is the same under all rules, and a second pass finds nothing to do.
-/
import Mathlib.Data.List.Forall2
import SqlGuard.Proofs.Repair.Statement

namespace SqlGuard

open Text

/-! ### Statements with their reports -/

/-- Each statement is paired with the report on itself. -/
theorem zip_statements_validate (rules : Rules) (t : Text) :
    (statements t).zip (validate rules t).statements =
      (statements t).zipIdx.map fun p => (p.1, checkStatement rules (p.2 + 1) p.1) := by
  rw [statements_validate, checkStatements_eq_map]
  conv_lhs => arg 1; rw [← List.zipIdx_map_fst 0 (statements t)]
  rw [List.zip_map']

/-! ### The outcome of a repair -/

/-- The lines that tell of the repairs among statements. -/
def fixLines (ss : List Text) : List String :=
  ss.zipIdx.filterMap fun p => (repairOf? p.1).map fun a => fixMessage (p.2 + 1) a.clause

/-- A repair gives the mended statements, whatever the rules of the report. -/
theorem mendedInput_eq (rules : Rules) (t : Text) :
    mendedInput ((statements t).zip (validate rules t).statements) =
      rejoin ((statements t).map mended) := by
  unfold mendedInput
  rw [zip_statements_validate, List.map_map]
  congr 1
  have hpoint : ((fun p : Text × StatementReport =>
        Activation.textOr p.1 (repairStatement? p.1 p.2)) ∘
      fun p : Text × Nat => (p.1, checkStatement rules (p.2 + 1) p.1)) =
      fun p => mended p.1 := by
    funext p
    simp only [Function.comp_apply]
    rw [repairStatement?_checkStatement, textOr_repairOf?]
  rw [hpoint]
  conv_rhs => rw [← List.zipIdx_map_fst 0 (statements t), List.map_map]
  rfl

theorem fixMessages_eq (rules : Rules) (t : Text) :
    fixMessages ((statements t).zip (validate rules t).statements) =
      fixLines (statements t) := by
  unfold fixMessages fixLines
  rw [zip_statements_validate, List.filterMap_map]
  congr 1
  funext p
  simp only [Function.comp_apply]
  rw [repairStatement?_checkStatement, checkStatement_index]

theorem mended_of_isValid {rules : Rules} {t : Text} (h : (validate rules t).isValid = true) :
    ∀ s ∈ statements t, mended s = s := by
  intro s hs
  have hpermitted : Permitted rules s := (isValid_iff_permitted.1 h).2 s hs
  have hvalid : (checkStatement rules 1 s).valid = true := checkStatement_valid_iff.2 hpermitted
  exact mended_of_valid hvalid

/-- Statements that stay as they are leave no line. -/
theorem fixLines_eq_nil_iff {ss : List Text} : fixLines ss = [] ↔ ∀ s ∈ ss, mended s = s := by
  unfold fixLines
  rw [List.filterMap_eq_nil_iff]
  constructor
  · intro h s hs
    obtain ⟨i, hi⟩ := List.getElem?_of_mem hs
    have := h (s, i) (List.mk_mem_zipIdx_iff_getElem?.2 hi)
    exact mended_eq_self_iff.2 (by simpa using this)
  · intro h p hp
    have hs : p.1 ∈ ss := List.mem_of_getElem? (List.mk_mem_zipIdx_iff_getElem?.1 hp)
    simp [mended_eq_self_iff.1 (h p.1 hs)]

/-- A statement that changed is told of by its number and the clause. -/
theorem fixMessage_mem_fixLines {ss : List Text} {i : Nat} {s : Text} {found : CommentedFilter}
    (hi : ss[i]? = some s) (hfound : commentedFilter? s = some found) (h : mended s ≠ s) :
    fixMessage (i + 1) found.clause ∈ fixLines ss := by
  obtain ⟨found', hfound', -, hrep, -, -⟩ := exists_of_mended_ne h
  have hsame : found' = found := Option.some.inj (hfound'.symm.trans hfound)
  refine List.mem_filterMap.2 ⟨(s, i), List.mk_mem_zipIdx_iff_getElem?.2 hi, ?_⟩
  simp [hrep, hsame]

/-- **The two ways through a repair.**  An input is kept when there is nothing to mend in it;
any other is made of the mended statements. -/
theorem repair_cases (rules : Rules) (t : Text) :
    (repair rules t = .ofFixed rules t t [] ∧ ∀ s ∈ statements t, mended s = s) ∨
      repair rules t =
        .ofFixed rules t (rejoin ((statements t).map mended)) (fixLines (statements t)) := by
  unfold repair repairReported
  by_cases h : ((validate rules t).isValid || (validate rules t).statements.isEmpty) = true
  · refine Or.inl ⟨by rw [if_pos h], ?_⟩
    rw [Bool.or_eq_true] at h
    rcases h with hvalid | hempty
    · exact mended_of_isValid hvalid
    · rw [statements_validate, checkStatements_eq_map, List.isEmpty_iff,
        List.map_eq_nil_iff] at hempty
      have hnone : statements t = [] := by simpa using hempty
      simp [hnone]
  · refine Or.inr ?_
    rw [if_neg h, mendedInput_eq, fixMessages_eq]

theorem map_mended_of_forall {ss : List Text} (h : ∀ s ∈ ss, mended s = s) :
    ss.map mended = ss := by
  rw [List.map_congr_left h, List.map_id']

/-- Mended statements come back from the input made of them. -/
theorem statements_rejoin_mended (t : Text) :
    statements (rejoin ((statements t).map mended)) = (statements t).map mended := by
  refine statements_rejoin ?_
  intro s hs
  obtain ⟨s', hs', rfl⟩ := List.mem_map.1 hs
  exact (isStatement_of_mem_statements hs').mended

theorem statements_fixed (rules : Rules) (t : Text) :
    statements (repair rules t).fixed = (statements t).map mended := by
  rcases repair_cases rules t with ⟨heq, hall⟩ | heq
  · rw [heq, map_mended_of_forall hall]; rfl
  · rw [heq]; exact statements_rejoin_mended t

theorem fixes_eq (rules : Rules) (t : Text) :
    (repair rules t).fixes = fixLines (statements t) := by
  rcases repair_cases rules t with ⟨heq, hall⟩ | heq
  · rw [heq, fixLines_eq_nil_iff.2 hall]; rfl
  · rw [heq]; rfl

theorem validation_eq (rules : Rules) (t : Text) :
    (repair rules t).validation = validate rules (repair rules t).fixed := by
  rcases repair_cases rules t with ⟨heq, -⟩ | heq
  · rw [heq]; rfl
  · rw [heq]; rfl

/-! ### Position by position -/

/-- The report on a repaired input tells of the mended statements under the old numbers. -/
theorem getElem?_validation (rules : Rules) (t : Text) (i : Nat) :
    (repair rules t).validation.statements[i]? =
      (statements t)[i]?.map fun s => checkStatement rules (i + 1) (mended s) := by
  rw [validation_eq, getElem?_validate, statements_fixed, List.getElem?_map, Option.map_map]
  rfl

/-! ### Statement by statement -/

/-- One line for each statement that changed, in the order of the statements. -/
theorem forall₂_fixLines (ss : List Text) :
    List.Forall₂ (fun line p => ∃ found, commentedFilter? p.1 = some found ∧
        line = fixMessage (p.2 + 1) found.clause)
      (fixLines ss) (ss.zipIdx.filter fun p => mended p.1 ≠ p.1) := by
  unfold fixLines
  generalize ss.zipIdx = pairs
  induction pairs with
  | nil => exact .nil
  | cons p pairs ih =>
      by_cases h : mended p.1 = p.1
      · rw [List.filterMap_cons, mended_eq_self_iff.1 h, List.filter_cons_of_neg (by simpa using h)]
        exact ih
      · obtain ⟨found, hfound, -, hrep, -, -⟩ := exists_of_mended_ne h
        rw [List.filterMap_cons, hrep, List.filter_cons_of_pos (by simpa using h)]
        exact .cons ⟨found, hfound, rfl⟩ ih

/-- **A repair acts statement by statement.**  What it leaves divides into the statements of
the input, each of them mended on its own, and it tells of those that changed and of no
other, in their order, each by its number and the clause that was put into effect.  Nothing
of this depends on the rules. -/
theorem repair_statementwise (rules rules' : Rules) (t : Text) :
    statements (repair rules t).fixed = (statements t).map mended ∧
      List.Forall₂ (fun line p => ∃ found, commentedFilter? p.1 = some found ∧
          line = fixMessage (p.2 + 1) found.clause)
        (repair rules t).fixes ((statements t).zipIdx.filter fun p => mended p.1 ≠ p.1) ∧
      (repair rules t).fixes = (repair rules' t).fixes ∧
      statements (repair rules t).fixed = statements (repair rules' t).fixed := by
  refine ⟨statements_fixed rules t, ?_, ?_, ?_⟩
  · rw [fixes_eq]
    exact forall₂_fixLines (statements t)
  · rw [fixes_eq, fixes_eq]
  · rw [statements_fixed, statements_fixed]

/-! ### Pass after pass -/

/-- A second repair keeps what the first one left. -/
theorem repair_fixed (rules : Rules) (t : Text) :
    repair rules (repair rules t).fixed =
      .ofFixed rules (repair rules t).fixed (repair rules t).fixed [] := by
  have hstable : ∀ s ∈ statements (repair rules t).fixed, mended s = s := by
    intro s hs
    rw [statements_fixed] at hs
    obtain ⟨s', -, rfl⟩ := List.mem_map.1 hs
    exact mended_mended s'
  rcases repair_cases rules (repair rules t).fixed with ⟨heq, -⟩ | heq
  · exact heq
  · rw [heq, fixLines_eq_nil_iff.2 hstable, map_mended_of_forall hstable]
    -- The second pass rejoins what the first one did, unless the first one kept the input.
    rcases repair_cases rules t with ⟨hfirst, hall⟩ | hfirst
    · have hkept : (repair rules t).fixed = t := by rw [hfirst]; rfl
      rw [hkept] at heq ⊢
      rw [hfirst, map_mended_of_forall hall, fixLines_eq_nil_iff.2 hall] at heq
      exact heq.symm
    · have hmade : (repair rules t).fixed = rejoin ((statements t).map mended) := by
        rw [hfirst]; rfl
      rw [hmade, statements_rejoin_mended]

/-- The passes after the first one are all alike. -/
theorem repairPasses_succ (rules : Rules) (n : Nat) (t : Text) :
    repairPasses rules (n + 1) t =
      repair rules t ::
        List.replicate n (.ofFixed rules (repair rules t).fixed (repair rules t).fixed []) := by
  induction n generalizing t with
  | zero => rfl
  | succ n ih =>
      have hstep : repairPasses rules (n + 2) t =
          repair rules t :: repairPasses rules (n + 1) (repair rules t).fixed := rfl
      rw [hstep, ih, repair_fixed]
      rfl

/-- **Repairing is done in one pass.**  However many passes are made, each ends with the text
that the first one left, and none after the first has a repair to tell of. -/
theorem repairPasses_settle (rules : Rules) (t : Text) (n : Nat) :
    (repairPasses rules (n + 1) t).length = n + 1 ∧
      (∀ outcome ∈ repairPasses rules (n + 1) t, outcome.fixed = (repair rules t).fixed) ∧
      ∀ outcome ∈ (repairPasses rules (n + 1) t).tail, outcome.fixes = [] := by
  rw [repairPasses_succ]
  refine ⟨by simp, ?_, ?_⟩
  · intro outcome hmem
    rcases List.mem_cons.1 hmem with rfl | hlater
    · rfl
    · rw [List.eq_of_mem_replicate hlater]; rfl
  · intro outcome hmem
    rw [List.tail_cons] at hmem
    rw [List.eq_of_mem_replicate hmem]; rfl

end SqlGuard
