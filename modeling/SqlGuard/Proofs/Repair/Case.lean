/-
Verdicts and repairs do not depend on letter case.

Of a statement in lower case everything is said that is said of the statement itself, so the
reports on the two are the same, down to the text of their messages: the only part of a statement
that a message quotes is its kind, which is in upper case.

A repair does quote the statement.  It takes a clause out of it and writes it back, normalises
its lines and rejoins it with others.  All of these steps can be taken before the letters are
lowered or afterwards (`mended_lower`), and whether a statement is repaired is up to the
scanners.  So the repairs of two inputs that differ in letter case are made in the same places,
and what they leave differs in letter case only.
-/
import SqlGuard.Proofs.Repair.Input
import SqlGuard.Proofs.Statement.Case

namespace SqlGuard

open Text

/-! ### Verdicts -/

theorem checkStatement_lower (rules : Rules) (index : Int) (s : Text) :
    checkStatement rules index (lower s) = checkStatement rules index s := by
  unfold checkStatement judge violations advice
  rw [scan_lower, upper_lower]

/-- **The report on an input does not depend on the case of its letters.** -/
theorem validate_lower (rules : Rules) (t : Text) :
    validate rules (lower t) = validate rules t := by
  unfold validate
  rw [statements_lower, checkStatements_eq_map, checkStatements_eq_map, List.zipIdx_map,
    List.map_map]
  congr 2
  funext p
  exact checkStatement_lower rules (p.2 + 1) p.1

/-! ### The rewritten statement -/

theorem normaliseLine_lower (line : Text) :
    normaliseLine (lower line) = lower (normaliseLine line) := by
  unfold normaliseLine
  rw [pieces_lower isHorizontal_toLower, intercalate_map_lower (by decide), trim_lower]

theorem normalise_lower (s : Text) : normalise (lower s) = lower (normalise s) := by
  unfold normalise
  rw [lines_lower, map_map_lower normaliseLine_lower, filter_isEmpty_lower, unlines_map_lower]

theorem uncomment_lower (s : Text) (found : CommentedFilter) :
    uncomment (lower s) found.lower = lower (uncomment s found) := by
  have hline : codePart found.lower.before ++ ' ' :: found.lower.clause =
      lower (codePart found.before ++ ' ' :: found.clause) := by
    rw [lower_append, lower_cons, ← codePart_lower]
    rfl
  unfold uncomment
  rw [hline, lines_lower, ← List.map_set, unlines_map_lower, normalise_lower]
  rfl

/-- A statement whose filter was put into effect, with its letters in lower case. -/
def Activation.lower (a : Activation) : Activation :=
  { text := Text.lower a.text, clause := Text.lower a.clause }

theorem activate?_lower (s : Text) : activate? (lower s) = (activate? s).map Activation.lower := by
  unfold activate?
  rw [commentedFilter?_lower]
  cases commentedFilter? s with
  | none => rfl
  | some found =>
      simp only [Option.map_some, uncomment_lower, hasActiveFilter_lower]
      split <;> rfl

theorem isRepairable_lower (s : Text) : isRepairable (lower s) = isRepairable s := by
  unfold isRepairable
  rw [kind_lower, hasActiveFilter_lower, hasCommentedFilter_lower]

theorem repairOf?_lower (s : Text) : repairOf? (lower s) = (repairOf? s).map Activation.lower := by
  unfold repairOf?
  rw [isRepairable_lower, activate?_lower]
  split <;> rfl

/-- **A statement is mended in the same way** in whatever case its letters are. -/
theorem mended_lower (s : Text) : mended (lower s) = lower (mended s) := by
  rw [← textOr_repairOf?, ← textOr_repairOf?, repairOf?_lower]
  cases repairOf? s <;> rfl

theorem mended_lower_eq_self_iff {s : Text} : mended (lower s) = lower s ↔ mended s = s := by
  rw [mended_eq_self_iff, mended_eq_self_iff, repairOf?_lower, Option.map_eq_none_iff]

/-! ### The repaired input -/

/-- The repaired input, by its two cases. -/
theorem fixed_eq (rules : Rules) (t : Text) :
    (repair rules t).fixed =
      if (validate rules t).isValid || (validate rules t).statements.isEmpty then t
      else rejoin ((statements t).map mended) := by
  unfold repair repairReported
  split
  · rfl
  · exact mendedInput_eq rules t

theorem fixed_lower (rules : Rules) (t : Text) :
    (repair rules (lower t)).fixed = lower (repair rules t).fixed := by
  rw [fixed_eq, fixed_eq, validate_lower, statements_lower, map_map_lower mended_lower,
    rejoin_map_lower]
  split <;> rfl

/-- Whether the statement at some place of an input is the same after a repair. -/
theorem getElem?_fixed_lower (rules : Rules) (t : Text) (k : Nat) :
    (statements (repair rules (lower t)).fixed)[k]? = (statements (lower t))[k]? ↔
      (statements (repair rules t).fixed)[k]? = (statements t)[k]? := by
  rw [statements_fixed, statements_fixed, statements_lower, List.getElem?_map, List.getElem?_map,
    List.getElem?_map]
  cases (statements t)[k]? with
  | none => simp
  | some s => simpa using mended_lower_eq_self_iff

/-! ### What is told of a repair -/

/-- The repairs among statements, each by the place of its statement and the clause. -/
def repairsOf (ss : List Text) : List (Nat × Text) :=
  ss.zipIdx.filterMap fun p => (repairOf? p.1).map fun a => (p.2, a.clause)

theorem fixLines_eq_map (ss : List Text) :
    fixLines ss = (repairsOf ss).map fun p => fixMessage (p.1 + 1) p.2 := by
  unfold fixLines repairsOf
  rw [List.map_filterMap]
  simp only [Option.map_map]
  rfl

theorem repairsOf_map_lower (ss : List Text) :
    repairsOf (ss.map lower) = (repairsOf ss).map fun p => (p.1, lower p.2) := by
  unfold repairsOf
  rw [List.zipIdx_map, List.filterMap_map, List.map_filterMap]
  congr 1
  funext p
  simp only [Function.comp_apply, Prod.map, repairOf?_lower, Option.map_map]
  rfl

/-- Whether two lines tell of a repair in the same place, by clauses that differ in the case of
letters only. -/
def SameRepair (line line' : String) : Prop :=
  ∃ (index : Int) (clause clause' : Text), line = fixMessage index clause ∧
    line' = fixMessage index clause' ∧ EqUpToCase clause clause'

theorem forall₂_sameRepair {ss ss' : List Text} (h : ss.map lower = ss'.map lower) :
    List.Forall₂ SameRepair (fixLines ss) (fixLines ss') := by
  have hrepairs : (repairsOf ss).map (fun p => (p.1, lower p.2)) =
      (repairsOf ss').map fun p => (p.1, lower p.2) := by
    rw [← repairsOf_map_lower, ← repairsOf_map_lower, h]
  rw [← List.forall₂_eq_eq_eq, List.forall₂_map_left_iff, List.forall₂_map_right_iff] at hrepairs
  rw [fixLines_eq_map, fixLines_eq_map, List.forall₂_map_left_iff, List.forall₂_map_right_iff]
  refine hrepairs.imp fun p p' hp => ?_
  obtain ⟨hplace, hclause⟩ := Prod.mk.inj hp
  exact ⟨p.1 + 1, p.2, p'.2, rfl, by rw [hplace], eqUpToCase_iff.2 hclause⟩

/-! ### Two inputs -/

/-- **The case of ASCII letters never matters.**  Two inputs that differ in nothing else have the
same report.  A repair leaves the same statements of them alone, tells of the same repairs, and
what it makes of them differs in the case of letters only and has the same report again. -/
theorem letter_case_ignored {t t' : Text} (h : EqUpToCase t t') (rules : Rules) :
    validate rules t = validate rules t' ∧
      EqUpToCase (repair rules t).fixed (repair rules t').fixed ∧
      (∀ k : Nat, (statements (repair rules t).fixed)[k]? = (statements t)[k]? ↔
        (statements (repair rules t').fixed)[k]? = (statements t')[k]?) ∧
      List.Forall₂ SameRepair (repair rules t).fixes (repair rules t').fixes ∧
      (repair rules t).validation = (repair rules t').validation := by
  -- Both inputs have the same lower case, and each part is told of it first.
  rw [eqUpToCase_iff] at h
  have hvalidate : ∀ {u u' : Text}, lower u = lower u' → validate rules u = validate rules u' := by
    intro u u' hu
    rw [← validate_lower, hu, validate_lower]
  have hfixed : lower (repair rules t).fixed = lower (repair rules t').fixed := by
    rw [← fixed_lower, h, fixed_lower]
  refine ⟨hvalidate h, eqUpToCase_iff.2 hfixed, ?_, ?_, ?_⟩
  · intro k
    rw [← getElem?_fixed_lower, h, getElem?_fixed_lower]
  · rw [fixes_eq, fixes_eq]
    refine forall₂_sameRepair ?_
    rw [← statements_lower, h, statements_lower]
  · rw [validation_eq, validation_eq]
    exact hvalidate hfixed

/-- The filter of a DELETE is put back in the case it was written in, the one of the other input
in its own. -/
theorem letter_case_ignored_delete :
    EqUpToCase "delete From t -- Where id = 1".toList "DELETE from T -- wHERE Id = 1".toList ∧
      (repair {} "delete From t -- Where id = 1".toList).fixed =
        "delete From t Where id = 1;".toList ∧
      EqUpToCase (repair {} "delete From t -- Where id = 1".toList).fixed
        (repair {} "DELETE from T -- wHERE Id = 1".toList).fixed := by
  have h : EqUpToCase "delete From t -- Where id = 1".toList
      "DELETE from T -- wHERE Id = 1".toList := eqUpToCase_iff.2 (by decide +kernel)
  exact ⟨h, by decide +kernel, (letter_case_ignored h {}).2.1⟩

end SqlGuard
