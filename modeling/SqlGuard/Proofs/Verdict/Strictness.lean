/-
Stricter rules.

Each rule looks at a statement by itself, and all that it can do is to add errors of its own.
So of two rule sets the stricter one gives every statement the errors that the other gives it,
and perhaps more between them (`violations_sublist`); nothing else in the report on a statement
depends on the rules, save whether it has errors at all.  A commented filter comes before every
rule and leaves them nothing to add.

Two rule sets have a strictest combination, which enforces what one of them enforces.  It is
stricter than both, and finds fault with a statement only if one of them does.  That makes the
verdict under it the conjunction of the two, and rules that are relaxed can only turn a verdict
to the good.
-/
import Mathlib.Data.List.Forall2
import SqlGuard.Proofs.Verdict.Meaning

namespace SqlGuard

open Text

/-! ### Comparing rules -/

/-- Whether one rule set enforces all that another one enforces. -/
structure Rules.Stricter (strict lax : Rules) : Prop where
  requireFilter : lax.requireFilter = true → strict.requireFilter = true
  allowDrop : strict.allowDrop = true → lax.allowDrop = true
  allowTruncate : strict.allowTruncate = true → lax.allowTruncate = true

namespace Rules

/-- The rules that enforce what one of two rule sets enforces. -/
def strictest (r₁ r₂ : Rules) : Rules where
  requireFilter := r₁.requireFilter || r₂.requireFilter
  allowDrop := r₁.allowDrop && r₂.allowDrop
  allowTruncate := r₁.allowTruncate && r₂.allowTruncate

variable {r₁ r₂ strict lax : Rules}

theorem strictest_comm (r₁ r₂ : Rules) : r₁.strictest r₂ = r₂.strictest r₁ := by
  simp [strictest, Bool.or_comm, Bool.and_comm]

theorem strictest_stricter (r₁ r₂ : Rules) : (r₁.strictest r₂).Stricter r₁ where
  requireFilter h := by simp [strictest, h]
  allowDrop h := (Bool.and_eq_true_iff.1 h).1
  allowTruncate h := (Bool.and_eq_true_iff.1 h).1

/-- Rules that are stricter already are not changed by combining them. -/
theorem Stricter.strictest_eq (h : strict.Stricter lax) : strict.strictest lax = strict := by
  obtain ⟨filter, drop, truncate⟩ := strict
  obtain ⟨hfilter, hdrop, htruncate⟩ := h
  simp only at hfilter hdrop htruncate
  simp only [strictest, mk.injEq]
  refine ⟨?_, ?_, ?_⟩
  · cases filter <;> simp_all
  · cases drop <;> simp_all
  · cases truncate <;> simp_all

end Rules

/-! ### One statement -/

section Statement

variable {strict lax : Rules}

/-- What is added under a condition is added under a weaker one. -/
private theorem sublist_of_imp {a b : Bool} (h : a = true → b = true) (fs : List Finding) :
    (if a then fs else []).Sublist (if b then fs else []) := by
  cases a with
  | false => exact List.nil_sublist _
  | true => rw [h rfl]

/-- **Each rule adds its own errors**, and where it is not enforced it adds none. -/
theorem violations_sublist (h : strict.Stricter lax) (s : Text) (found : Scan) :
    (violations lax s found).Sublist (violations strict s found) := by
  unfold violations
  refine ((sublist_of_imp ?_ _).append (sublist_of_imp ?_ _)).append (sublist_of_imp ?_ _)
  · simp only [Bool.and_eq_true]
    exact fun ⟨⟨hrequire, hneeds⟩, hinactive⟩ => ⟨⟨h.requireFilter hrequire, hneeds⟩, hinactive⟩
  · simp only [Bool.and_eq_true, Bool.not_eq_true', ← Bool.not_eq_true]
    exact fun ⟨hphrase, hforbidden⟩ => ⟨hphrase, fun hdrop => hforbidden (h.allowDrop hdrop)⟩
  · simp only [Bool.and_eq_true, Bool.not_eq_true', ← Bool.not_eq_true]
    exact fun ⟨hphrase, hforbidden⟩ =>
      ⟨hphrase, fun htruncate => hforbidden (h.allowTruncate htruncate)⟩

/-- What stricter rules make of the report on a statement. -/
structure StatementReport.Tightened (r tight : StatementReport) : Prop where
  kind : tight.kind = r.kind
  index : tight.index = r.index
  hasActiveFilter : tight.hasActiveFilter = r.hasActiveFilter
  warnings : tight.warnings = r.warnings
  errors : r.errors.Sublist tight.errors
  valid : tight.valid = true → r.valid = true

/-- **Stricter rules add errors to the report on a statement and change nothing else**, but that
it may no longer be valid. -/
theorem checkStatement_tightened (h : strict.Stricter lax) (index : Int) (s : Text) :
    (checkStatement lax index s).Tightened (checkStatement strict index s) := by
  have herrors := violations_sublist h s (scan s)
  cases hc : hasCommentedFilter s with
  | true =>
      rw [checkStatement_of_commented hc, checkStatement_of_commented hc]
      exact ⟨rfl, rfl, rfl, rfl, List.Sublist.refl _, id⟩
  | false =>
      rw [checkStatement_of_uncommented hc, checkStatement_of_uncommented hc]
      refine ⟨rfl, rfl, rfl, rfl, herrors.map _, ?_⟩
      intro hvalid
      rw [List.isEmpty_iff] at hvalid ⊢
      rw [hvalid] at herrors
      exact List.sublist_nil.1 herrors

/-- Rules that are combined permit what each of them permits. -/
theorem permitted_strictest_iff {r₁ r₂ : Rules} {s : Text} :
    Permitted (r₁.strictest r₂) s ↔ Permitted r₁ s ∧ Permitted r₂ s := by
  constructor
  · intro h
    have hdrop := fun hphrase => Bool.and_eq_true_iff.1 (h.noDrop hphrase)
    have htruncate := fun hphrase => Bool.and_eq_true_iff.1 (h.noTruncate hphrase)
    refine ⟨⟨h.uncommented, ?_, fun hp => (hdrop hp).1, fun hp => (htruncate hp).1⟩,
      ⟨h.uncommented, ?_, fun hp => (hdrop hp).2, fun hp => (htruncate hp).2⟩⟩
    · exact fun hrequire => h.filtered (Bool.or_eq_true_iff.2 (Or.inl hrequire))
    · exact fun hrequire => h.filtered (Bool.or_eq_true_iff.2 (Or.inr hrequire))
  · rintro ⟨h₁, h₂⟩
    refine ⟨h₁.uncommented, ?_, ?_, ?_⟩
    · intro hrequire
      rcases Bool.or_eq_true_iff.1 hrequire with hfirst | hsecond
      · exact h₁.filtered hfirst
      · exact h₂.filtered hsecond
    · exact fun hp => Bool.and_eq_true_iff.2 ⟨h₁.noDrop hp, h₂.noDrop hp⟩
    · exact fun hp => Bool.and_eq_true_iff.2 ⟨h₁.noTruncate hp, h₂.noTruncate hp⟩

end Statement

/-! ### A whole input -/

section Input

variable {r₁ r₂ strict lax : Rules} {t : Text}

theorem statements_tightened (h : strict.Stricter lax) :
    List.Forall₂ StatementReport.Tightened (validate lax t).statements
      (validate strict t).statements := by
  rw [statements_validate, statements_validate, checkStatements_eq_map, checkStatements_eq_map,
    List.forall₂_map_left_iff, List.forall₂_map_right_iff, List.forall₂_same]
  intro p _
  exact checkStatement_tightened h _ _

theorem validCount_le_of_stricter (h : strict.Stricter lax) :
    (validate strict t).validCount ≤ (validate lax t).validCount := by
  unfold Report.validCount
  rw [statements_validate, statements_validate, checkStatements_eq_map, checkStatements_eq_map,
    List.countP_map, List.countP_map]
  refine List.countP_mono_left fun p _ => ?_
  exact (checkStatement_tightened h _ _).valid

theorem isValid_strictest_iff :
    (validate (r₁.strictest r₂) t).isValid = true ↔
      (validate r₁ t).isValid = true ∧ (validate r₂ t).isValid = true := by
  simp only [isValid_iff_permitted, permitted_strictest_iff, forall_and]
  tauto

end Input

/-- **Rules act independently and monotonically.**  Under the strictest combination of two rule
sets an input is valid when it is valid under each.  The statements are reported on as under
either, but that errors are added and that those with errors are not valid.  And relaxing rules
leaves a valid input valid, and does not make its valid statements fewer. -/
theorem validate_strictest (r₁ r₂ : Rules) (t : Text) :
    ((validate (r₁.strictest r₂) t).isValid = true ↔
        (validate r₁ t).isValid = true ∧ (validate r₂ t).isValid = true) ∧
      List.Forall₂ StatementReport.Tightened (validate r₁ t).statements
        (validate (r₁.strictest r₂) t).statements ∧
      List.Forall₂ StatementReport.Tightened (validate r₂ t).statements
        (validate (r₁.strictest r₂) t).statements ∧
      (r₁.Stricter r₂ →
        ((validate r₁ t).isValid = true → (validate r₂ t).isValid = true) ∧
          (validate r₁ t).validCount ≤ (validate r₂ t).validCount) := by
  refine ⟨isValid_strictest_iff, statements_tightened (r₁.strictest_stricter r₂), ?_, ?_⟩
  · rw [Rules.strictest_comm]
    exact statements_tightened (r₂.strictest_stricter r₁)
  · intro h
    refine ⟨?_, validCount_le_of_stricter h⟩
    intro hvalid
    rw [← h.strictest_eq, isValid_strictest_iff] at hvalid
    exact hvalid.2

-- Each rule set finds fault with one statement, their combination with both of them.
example :
    let count := fun rules =>
      (validate rules "DROP TABLE a; DELETE FROM b; SET c".toList).validCount
    count { allowDrop := true } = 2 ∧ count { requireFilter := false } = 2 ∧
      count (Rules.strictest { allowDrop := true } { requireFilter := false }) = 1 := by
  decide +kernel

end SqlGuard
