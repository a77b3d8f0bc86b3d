/-
What a verdict means.

A statement is judged by a cascade of rules that add errors to a list, and an input by
counting the statements whose list stayed empty.  `Permitted` says what the cascade comes
to, one condition for each thing that can be wrong, and none of them looks at an error.

An input is then valid when it holds something to execute and every stretch of it between
semicolons that is not blank is permitted: `validate_isValid_iff`.
-/
import SqlGuard.Proofs.Statement.Split
import SqlGuard.Proofs.Text.Search
import SqlGuard.Verdict

namespace SqlGuard

open Text

/-! ### One statement -/

/-- A commented filter makes a statement invalid under all rules. -/
theorem checkStatement_of_commented {s : Text} (h : hasCommentedFilter s = true) (rules : Rules)
    (index : Int) :
    checkStatement rules index s =
      { valid := false, kind := kind s, index,
        errors := [Finding.filterOnlyInComment.message index] } := by
  simp [checkStatement, judge, scan, h]

/-- Any other statement is valid when the rules have nothing against it. -/
theorem checkStatement_of_uncommented {s : Text} (h : hasCommentedFilter s = false)
    (rules : Rules) (index : Int) :
    checkStatement rules index s =
      { valid := (violations rules s (scan s)).isEmpty
        kind := kind s
        index
        hasActiveFilter := hasActiveFilter s
        errors := (violations rules s (scan s)).map (·.message index)
        warnings := (advice s (scan s)).map (·.message index) } := by
  simp [checkStatement, judge, scan, h]

theorem not_hasCommentedFilter_of_valid {rules : Rules} {index : Int} {s : Text}
    (h : (checkStatement rules index s).valid = true) : hasCommentedFilter s = false := by
  rw [Bool.eq_false_iff]
  intro hc
  rw [checkStatement_of_commented hc] at h
  simp at h

theorem checkStatement_kind (rules : Rules) (index : Int) (s : Text) :
    (checkStatement rules index s).kind = kind s := by
  unfold checkStatement judge
  by_cases h : (scan s).commentedFilter = true
  · rw [if_pos h]; rfl
  · rw [if_neg h]; rfl

theorem checkStatement_index (rules : Rules) (index : Int) (s : Text) :
    (checkStatement rules index s).index = index := by
  unfold checkStatement judge
  by_cases h : (scan s).commentedFilter = true
  · rw [if_pos h]
  · rw [if_neg h]

/-- The report on a valid statement says whether it has an active filter. -/
theorem checkStatement_hasActiveFilter {rules : Rules} {index : Int} {s : Text}
    (h : (checkStatement rules index s).valid = true) :
    (checkStatement rules index s).hasActiveFilter = hasActiveFilter s := by
  rw [checkStatement_of_uncommented (not_hasCommentedFilter_of_valid h)]

/-- What the rules ask of a statement. -/
structure Permitted (rules : Rules) (s : Text) : Prop where
  /-- No filter of it was commented out. -/
  uncommented : hasCommentedFilter s = false
  /-- It does not change every row of a table. -/
  filtered : rules.requireFilter = true → kind s = "UPDATE" ∨ kind s = "DELETE" →
    hasActiveFilter s = true
  /-- It drops no table. -/
  noDrop : "DROP TABLE".toList <:+: s.upper → rules.allowDrop = true
  /-- It empties no table. -/
  noTruncate : "TRUNCATE".toList <:+: s.upper → rules.allowTruncate = true

theorem needsFilter_iff {keyword : String} :
    needsFilter keyword = true ↔ keyword = "UPDATE" ∨ keyword = "DELETE" := by
  simp [needsFilter]

/-- The rules have nothing against a statement exactly when it is one of those they permit. -/
theorem violations_eq_nil_iff {rules : Rules} {s : Text} :
    violations rules s (scan s) = [] ↔
      (rules.requireFilter = true → kind s = "UPDATE" ∨ kind s = "DELETE" →
          hasActiveFilter s = true) ∧
        ("DROP TABLE".toList <:+: s.upper → rules.allowDrop = true) ∧
        ("TRUNCATE".toList <:+: s.upper → rules.allowTruncate = true) := by
  have hfilter : ((if rules.requireFilter && needsFilter (kind s) && !hasActiveFilter s then
        [Finding.noFilter (kind s), .affectsAllRows] else []) = []) ↔
      (rules.requireFilter = true → kind s = "UPDATE" ∨ kind s = "DELETE" →
        hasActiveFilter s = true) := by
    rw [← needsFilter_iff]
    cases rules.requireFilter <;> cases needsFilter (kind s) <;>
      cases hasActiveFilter s <;> simp
  have hphrase : ∀ (phrase : Text) (allowed : Bool) (f : Finding),
      ((if mentions phrase s.upper && !allowed then [f] else []) = []) ↔
        (phrase <:+: s.upper → allowed = true) := by
    intro phrase allowed f
    rw [← mentions_iff]
    cases mentions phrase s.upper <;> cases allowed <;> simp
  unfold violations
  rw [List.append_eq_nil_iff, List.append_eq_nil_iff, and_assoc]
  exact and_congr hfilter (and_congr (hphrase _ _ _) (hphrase _ _ _))

/-- **A statement is valid exactly when the rules permit it.**  Its number plays no part. -/
theorem checkStatement_valid_iff {rules : Rules} {index : Int} {s : Text} :
    (checkStatement rules index s).valid = true ↔ Permitted rules s := by
  cases hc : hasCommentedFilter s with
  | true =>
      rw [checkStatement_of_commented hc]
      refine iff_of_false (by simp) ?_
      intro h
      rw [h.uncommented] at hc
      exact absurd hc (by simp)
  | false =>
      rw [checkStatement_of_uncommented hc]
      show (violations rules s (scan s)).isEmpty = true ↔ _
      rw [List.isEmpty_iff, violations_eq_nil_iff]
      constructor
      · rintro ⟨hfilter, hdrop, htruncate⟩
        exact ⟨hc, hfilter, hdrop, htruncate⟩
      · intro h
        exact ⟨h.filtered, h.noDrop, h.noTruncate⟩

/-! ### A whole input -/

theorem checkStatements_eq_map (rules : Rules) (ss : List Text) :
    checkStatements rules ss =
      ss.zipIdx.map fun p => checkStatement rules (p.2 + 1) p.1 := by
  unfold checkStatements
  rw [List.mapIdx_eq_zipIdx_map]

theorem statements_ofStatements (rs : List StatementReport) :
    (Report.ofStatements rs).statements = rs := by
  unfold Report.ofStatements
  cases rs with
  | nil => rfl
  | cons r rs => rfl

theorem statements_validate (rules : Rules) (t : Text) :
    (validate rules t).statements = checkStatements rules (statements t) :=
  statements_ofStatements _

theorem getElem?_validate (rules : Rules) (t : Text) (i : Nat) :
    (validate rules t).statements[i]? =
      (statements t)[i]?.map (checkStatement rules (i + 1)) := by
  rw [statements_validate, checkStatements, List.getElem?_mapIdx]

/-- An input is valid when it has statements and all of them are. -/
theorem isValid_ofStatements {rs : List StatementReport} :
    (Report.ofStatements rs).isValid = true ↔ rs ≠ [] ∧ ∀ r ∈ rs, r.valid = true := by
  cases rs with
  | nil => simp [Report.ofStatements]
  | cons r rs =>
      have hle : (r :: rs).countP (·.valid) ≤ (r :: rs).length := List.countP_le_length
      have hcount : (r :: rs).countP (·.valid) = (r :: rs).length ↔
          ∀ x ∈ r :: rs, x.valid = true := List.countP_eq_length
      have hall : ((r :: rs).length - (r :: rs).countP (·.valid) == 0) = true ↔
          ∀ x ∈ r :: rs, x.valid = true := by
        rw [beq_iff_eq, ← hcount]
        omega
      exact hall.trans (by simp)

/-- The reports are all of valid statements when the rules permit each statement. -/
theorem checkStatements_valid_iff {rules : Rules} {ss : List Text} :
    (∀ r ∈ checkStatements rules ss, r.valid = true) ↔ ∀ s ∈ ss, Permitted rules s := by
  rw [checkStatements_eq_map]
  constructor
  · intro h s hs
    obtain ⟨i, hi⟩ := List.getElem?_of_mem hs
    have hmem : (s, i) ∈ ss.zipIdx := List.mk_mem_zipIdx_iff_getElem?.2 hi
    exact checkStatement_valid_iff.1 (h _ (List.mem_map.2 ⟨(s, i), hmem, rfl⟩))
  · intro h r hr
    obtain ⟨p, hp, rfl⟩ := List.mem_map.1 hr
    have hs : p.1 ∈ ss := List.mem_of_getElem? (List.mk_mem_zipIdx_iff_getElem?.1 hp)
    exact checkStatement_valid_iff.2 (h p.1 hs)

theorem isValid_iff_permitted {rules : Rules} {t : Text} :
    (validate rules t).isValid = true ↔
      statements t ≠ [] ∧ ∀ s ∈ statements t, Permitted rules s := by
  unfold validate
  rw [isValid_ofStatements, checkStatements_valid_iff, checkStatements, Ne,
    List.mapIdx_eq_nil_iff]

/-- Whether there is anything in a text but blanks. -/
def Text.HasContent (s : Text) : Prop :=
  ∃ c ∈ s, isBlank c = false

/-- The statements of an input are its stretches between semicolons that are not blank. -/
theorem mem_statements_iff {t s : Text} :
    s ∈ statements t ↔ ∃ piece ∈ t.splitOn ';', HasContent piece ∧ trim piece = s := by
  have hcontent : ∀ piece : Text, piece.trim ≠ [] ↔ piece.HasContent := by
    intro piece
    rw [Ne, trim_eq_nil_iff]
    simp [HasContent]
  unfold statements
  rw [List.mem_filter, List.mem_map]
  constructor
  · rintro ⟨⟨piece, hpiece, rfl⟩, hne⟩
    exact ⟨piece, hpiece, (hcontent piece).1 (by simpa using hne), rfl⟩
  · rintro ⟨piece, hpiece, hlive, rfl⟩
    exact ⟨⟨piece, hpiece, rfl⟩, by simpa using (hcontent piece).2 hlive⟩

/-- **An input is valid exactly when it holds something to execute, and the rules permit
every stretch between its semicolons that is not blank.** -/
theorem validate_isValid_iff (rules : Rules) (t : Text) :
    (validate rules t).isValid = true ↔
      (∃ piece ∈ t.splitOn ';', HasContent piece) ∧
        ∀ piece ∈ t.splitOn ';', HasContent piece → Permitted rules (trim piece) := by
  rw [isValid_iff_permitted]
  constructor
  · rintro ⟨hne, hall⟩
    obtain ⟨s, hs⟩ := List.exists_mem_of_ne_nil _ hne
    obtain ⟨piece, hpiece, hcontent, -⟩ := mem_statements_iff.1 hs
    refine ⟨⟨piece, hpiece, hcontent⟩, ?_⟩
    intro piece' hpiece' hcontent'
    exact hall (trim piece') (mem_statements_iff.2 ⟨piece', hpiece', hcontent', rfl⟩)
  · rintro ⟨⟨piece, hpiece, hcontent⟩, hall⟩
    refine ⟨List.ne_nil_of_mem (mem_statements_iff.2 ⟨piece, hpiece, hcontent, rfl⟩), ?_⟩
    intro s hs
    obtain ⟨piece', hpiece', hcontent', rfl⟩ := mem_statements_iff.1 hs
    exact hall piece' hpiece' hcontent'

end SqlGuard
