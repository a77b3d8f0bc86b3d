/-
Filters that are plainly commented out are repaired.

A repair succeeds when six parts of the program agree: the detector, which wants the filter in
a certain shape; the gate, which asks for the kind and for the lack of an active filter; the
extractor, which looks for the first marker; the two cuts of the line; the spacing; and the
checks on the outcome.  Each has inputs that the next one does not expect, and so a commented
filter can go unrepaired.

A `DisabledLine` is a line as one would write it: code, one marker, the filter word and its
condition, with nothing in the code or the condition that could be taken for another marker.  A
statement is `PlainlyDisabled` when this is its only line with a marker, and when the kind is
settled before it.  All six agree about such a statement, whatever its spacing and whatever the
rules: the detector and the extractor find the filter where it is (`commentedFilter?_eq`), its
clause filters by itself, and no marker is left (`not_infix_uncomment`), so that only what the
rules forbid in any statement can still be held against it.
-/
import SqlGuard.Proofs.Repair.Clause
import SqlGuard.Proofs.Repair.Kind
import SqlGuard.Proofs.Statement.Grammar

namespace SqlGuard

open Text

/-! ### Marks in a rewritten statement -/

/-- A mark stands in the rewritten statement exactly when it stands on one of its lines. -/
theorem breakAt?_uncomment_eq_none_iff {mark s : Text} {found : CommentedFilter}
    (hmark : IsMark mark) :
    breakAt? mark (uncomment s found) = none ↔
      ∀ l ∈ s.lines.set found.line found.activeLine, breakAt? mark l = none := by
  rw [← breakAt?_unlines_eq_none_iff hmark]
  exact breakAt?_eq_none_congr hmark (words_normalise _)

/-- The space before the clause makes no mark. -/
theorem CommentedFilter.breakAt?_activeLine (found : CommentedFilter) {mark : Text}
    (hmark : IsMark mark) (hbefore : ¬ mark <:+: found.before)
    (hclause : ¬ mark <:+: found.clause) : breakAt? mark found.activeLine = none := by
  have hcode : breakAt? mark (codePart found.before) = none := by
    rw [breakAt?_eq_none_iff]
    intro hmem
    exact hbefore (hmem.trans ((cutMarkers_isPrefix _).isInfix.trans (trim_isInfix _)))
  unfold activeLine
  rw [breakAt?_append hmark.nonempty (hmark.not_mem (by decide)), hcode,
    breakAt?_eq_none_iff.2 hclause]
  rfl

/-! ### A line that disables its filter -/

/-- A line whose filter is commented out, in its parts. -/
structure DisabledLine where
  /-- What is before the marker. -/
  code : Text
  marker : Marker
  /-- What is between the marker and the filter word. -/
  gap : Text
  word : Text
  /-- What is between the filter word and the condition. -/
  space : Text
  condition : Text
  code_unmarked : ∀ m : Marker, ¬ m.text <:+: code
  /-- The marker starts where it seems to start. -/
  code_end : code.trimRight.getLast? ≠ some marker.char
  gap_blank : ∀ c ∈ gap, isBlank c = true
  word_spelled : word.map Char.toLower = filterWord
  space_gap : IsGap space
  condition_content : condition.HasContent
  condition_unmarked : ∀ m : Marker, ¬ m.text <:+: condition

namespace DisabledLine

/-- What is behind the marker. -/
def comment (d : DisabledLine) : Text :=
  d.gap ++ (d.word ++ (d.space ++ d.condition))

/-- The whole line. -/
def text (d : DisabledLine) : Text :=
  d.code ++ (d.marker.text ++ d.comment)

/-- The filter: the word and its condition. -/
def clause (d : DisabledLine) : Text :=
  trim (d.word ++ (d.space ++ d.condition))

/-- The filter as the extractor tells of it, on the line with this number. -/
def found (d : DisabledLine) (line : Nat) : CommentedFilter :=
  { line, before := d.code, clause := d.clause }

variable (d : DisabledLine)

theorem trim_comment : d.comment.trim = d.clause :=
  trim_blanks_append d.gap_blank _

/-- No marker starts in the comment: not in the condition, and not before it. -/
theorem breakAt?_comment (m : Marker) : breakAt? m.text d.comment = none := by
  have hcut : cutMarkers Marker.all d.comment = d.comment := by
    unfold comment
    rw [cutMarkers_blanks_append d.gap_blank, cutMarkers_filterWord_gap d.word_spelled d.space_gap,
      cutMarkers_of_code fun m => breakAt?_eq_none_iff.2 (d.condition_unmarked m)]
  rw [← hcut]
  exact breakAt?_cutMarkers m _

theorem clause_unmarked (m : Marker) : ¬ m.text <:+: d.clause := by
  intro h
  refine breakAt?_eq_none_iff.1 (d.breakAt?_comment m) (h.trans ?_)
  rw [← d.trim_comment]
  exact trim_isInfix _

/-- A condition follows the filter word. -/
theorem hasCondition_space : hasCondition (fun _ => true) (d.space ++ d.condition) = true := by
  obtain ⟨b, space, hspace⟩ := List.exists_cons_of_ne_nil d.space_gap.1
  obtain ⟨c, hmem, hc⟩ := d.condition_content
  have hblank : isBlank b = true := d.space_gap.2 b (by rw [hspace]; simp)
  rw [hspace]
  exact hasCondition_of_content hblank (List.mem_append_right space hmem) hc

/-- The clause keeps the word, a gap, and the first character of the condition. -/
theorem exists_clause_eq :
    ∃ gap c rest, d.clause = d.word ++ (gap ++ c :: rest) ∧ IsGap gap ∧ isBlank c = false := by
  obtain ⟨gap, c, x, heq, hgap, hc, -⟩ := hasCondition_iff.1 d.hasCondition_space
  -- Trimming stops at the first character of the condition at the latest.
  have hends : BareEnds (d.word ++ (gap ++ [c])) := by
    obtain ⟨w, word, hword⟩ := List.exists_cons_of_ne_nil (ne_nil_of_filterWord d.word_spelled)
    have hw : isBlank w = false := solid_of_filterWord d.word_spelled w (by rw [hword]; simp)
    refine ⟨by rw [hword]; simpa using hw, ?_⟩
    rw [← List.append_assoc, List.getLast?_concat]
    simpa using hc
  have htrim := trim_append_of_bareEnds (by simp) hends x
  refine ⟨gap, c, trimRight x, ?_, hgap, hc⟩
  unfold clause
  rw [heq]
  simpa using htrim

/-- The clause is a filter by itself. -/
theorem isFilterClause_clause : IsFilterClause d.clause := by
  obtain ⟨gap, c, rest, heq, hgap, hc⟩ := d.exists_clause_eq
  refine ⟨d.word, gap, c, rest, heq, d.word_spelled, hgap, hc, ?_⟩
  intro m hp
  have hsuffix : c :: rest <:+ d.clause := by
    rw [heq, ← List.append_assoc]
    exact List.suffix_append _ _
  exact d.clause_unmarked m (hp.isInfix.trans hsuffix.isInfix)

/-! #### Where the marker is -/

theorem getLast?_code : d.code.getLast? ≠ some d.marker.char := by
  intro hlast
  have hsolid : isBlank d.marker.char = false :=
    d.marker.isMark_text.solid _ (by simp [Marker.text])
  have hkeep : d.code.trimRight = d.code := by
    have hends : ∀ c ∈ d.code.getLast?, isBlank c = false := by
      intro c hc
      rw [hlast] at hc
      rw [← Option.some.inj hc]
      exact hsolid
    simpa [trimRight] using trimRight_append hends []
  exact d.code_end (by rw [hkeep]; exact hlast)

/-- The line is cut at its marker. -/
theorem breakAt?_text : breakAt? d.marker.text d.text = some (d.code, d.comment) :=
  breakAt?_append_double (breakAt?_eq_none_iff.2 (d.code_unmarked _)) d.getLast?_code _

/-- The other marker is not on the line: it cannot share a character with this one. -/
theorem breakAt?_text_of_ne {m : Marker} (hm : m.char ≠ d.marker.char) :
    breakAt? m.text d.text = none := by
  have hseam : d.marker.char ∉ m.text := by simp [Marker.text, hm.symm]
  show breakAt? m.text (d.code ++ d.marker.char :: (d.marker.char :: d.comment)) = none
  rw [breakAt?_append m.isMark_text.nonempty hseam, breakAt?_eq_none_iff.2 (d.code_unmarked m),
    breakAt?_cons_of_not_mem m.isMark_text.nonempty hseam, d.breakAt?_comment]
  rfl

theorem filterClause?_text : d.marker.filterClause? d.text = some (d.code, d.clause) := by
  obtain ⟨gap, c, rest, heq, -, -⟩ := d.exists_clause_eq
  have hstart : "WHERE".toList.isPrefixOf d.clause.upper = true :=
    startsWith_filterWord_iff.2 ⟨d.word, _, heq, d.word_spelled⟩
  unfold Marker.filterClause?
  simp only [d.breakAt?_text, d.trim_comment, hstart, if_true]

/-- The extractor takes the clause, whichever marker it tries first. -/
theorem findSome?_filterClause?_text :
    Marker.all.findSome? (·.filterClause? d.text) = some (d.code, d.clause) := by
  have hclause := d.filterClause?_text
  cases hm : d.marker with
  | dashes =>
      rw [hm] at hclause
      simp [Marker.all, hclause]
  | slashes =>
      have hother : breakAt? Marker.dashes.text d.text = none :=
        d.breakAt?_text_of_ne (by rw [hm]; decide)
      have hnone : Marker.dashes.filterClause? d.text = none := by
        simp [Marker.filterClause?, hother]
      rw [hm] at hclause
      simp [Marker.all, hclause, hnone]

/-! #### The detector -/

theorem disablesFilter_text : disablesFilter d.text = true :=
  disablesFilter_of_comment d.gap_blank d.word_spelled d.hasCondition_space d.code_end

end DisabledLine

/-! ### A statement with one such line -/

/-- Whether a statement has its only filter commented out, on the one line of it that holds a
marker, and has its kind settled before that. -/
structure PlainlyDisabled (s : Text) (above : List Text) (d : DisabledLine) (below : List Text) :
    Prop where
  lines_eq : s.lines = above ++ d.text :: below
  unmarked : ∀ l ∈ above ++ below, ∀ m : Marker, ¬ m.text <:+: l
  unblocked : ¬ blockOpen <:+: s
  inactive : hasActiveFilter s = false
  kind_before : kind (unlines (above ++ [d.code])) = "UPDATE" ∨
    kind (unlines (above ++ [d.code])) = "DELETE"

namespace PlainlyDisabled

variable {s : Text} {above below : List Text} {d : DisabledLine}

/-- **The extractor finds the filter**, on its line and with its clause. -/
theorem commentedFilter?_eq (h : PlainlyDisabled s above d below) :
    commentedFilter? s = some (d.found above.length) := by
  have hnone : ∀ l ∈ above, Marker.all.findSome? (·.filterClause? l) = none := by
    intro l hl
    rw [List.findSome?_eq_none_iff]
    intro m _
    have hm := breakAt?_eq_none_iff.2 (h.unmarked l (List.mem_append_left _ hl) m)
    simp only [Marker.filterClause?, hm]
  unfold commentedFilter?
  rw [h.lines_eq, List.zipIdx_append, List.findSome?_append, List.findSome?_eq_none_iff.2]
  · rw [List.zipIdx_cons, List.findSome?_cons]
    simp [d.findSome?_filterClause?_text, DisabledLine.found]
  · intro p hp
    have hmem : p.1 ∈ above := List.mem_of_getElem? (List.mk_mem_zipIdx_iff_getElem?.1 hp)
    simp only [hnone p.1 hmem, Option.map_none]

/-- So does the detector. -/
theorem hasCommentedFilter_eq (h : PlainlyDisabled s above d below) :
    hasCommentedFilter s = true := by
  refine List.any_eq_true.2 ⟨d.text, ?_, d.disablesFilter_text⟩
  rw [h.lines_eq]
  exact List.mem_append_right _ List.mem_cons_self

/-! #### The kind -/

theorem textBefore_eq (h : PlainlyDisabled s above d below) :
    (d.found above.length).textBefore s = unlines (above ++ [d.code]) := by
  unfold CommentedFilter.textBefore DisabledLine.found
  rw [h.lines_eq, List.take_left]

theorem needsFilter_before (h : PlainlyDisabled s above d below) :
    needsFilter (kind ((d.found above.length).textBefore s)) = true := by
  rw [h.textBefore_eq]
  exact needsFilter_iff.2 h.kind_before

/-- The kind of the statement is that of the text before the marker. -/
theorem kind_before_eq (h : PlainlyDisabled s above d below) :
    kind ((d.found above.length).textBefore s) = kind s :=
  (d.found above.length).kind_textBefore h.commentedFilter?_eq h.unblocked h.needsFilter_before

theorem isRepairable_eq (h : PlainlyDisabled s above d below) : isRepairable s = true := by
  refine isRepairable_iff.2 ⟨?_, h.inactive, h.hasCommentedFilter_eq⟩
  rw [← h.kind_before_eq]
  exact h.needsFilter_before

/-! #### The rewritten statement -/

/-- What is neither in the other lines nor in the code nor in the clause is not in the rewritten
statement. -/
theorem not_infix_uncomment (h : PlainlyDisabled s above d below) {mark : Text}
    (hmark : IsMark mark) (hlines : ∀ l ∈ above ++ below, ¬ mark <:+: l)
    (hcode : ¬ mark <:+: d.code) (hclause : ¬ mark <:+: d.clause) :
    ¬ mark <:+: uncomment s (d.found above.length) := by
  have hset : s.lines.set above.length (d.found above.length).activeLine =
      above ++ (d.found above.length).activeLine :: below := by
    rw [h.lines_eq]
    simp
  refine breakAt?_eq_none_iff.1 ((breakAt?_uncomment_eq_none_iff hmark).2 ?_)
  intro l hl
  rw [show (d.found above.length).line = above.length from rfl, hset] at hl
  rcases List.mem_append.1 hl with habove | hrest
  · exact breakAt?_eq_none_iff.2 (hlines l (List.mem_append_left _ habove))
  · rcases List.mem_cons.1 hrest with heq | hbelow
    · rw [heq]
      exact (d.found above.length).breakAt?_activeLine hmark hcode hclause
    · exact breakAt?_eq_none_iff.2 (hlines l (List.mem_append_right _ hbelow))

theorem unmarked_uncomment (h : PlainlyDisabled s above d below) (m : Marker) :
    ¬ m.text <:+: uncomment s (d.found above.length) :=
  h.not_infix_uncomment m.isMark_text (fun l hl => h.unmarked l hl m) (d.code_unmarked m)
    (d.clause_unmarked m)

theorem unblocked_uncomment (h : PlainlyDisabled s above d below) :
    ¬ blockOpen <:+: uncomment s (d.found above.length) := by
  have hlines : ∀ l ∈ above ++ d.text :: below, ¬ blockOpen <:+: l := by
    intro l hl
    have hs := breakAt?_eq_none_iff.2 h.unblocked
    rw [← unlines_lines s, breakAt?_unlines_eq_none_iff isMark_blockOpen, h.lines_eq] at hs
    exact breakAt?_eq_none_iff.1 (hs l hl)
  have htext : ¬ blockOpen <:+: d.text := hlines d.text (by simp)
  refine h.not_infix_uncomment isMark_blockOpen ?_ ?_ ?_
  · intro l hl
    refine hlines l ?_
    rcases List.mem_append.1 hl with habove | hbelow
    · exact List.mem_append_left _ habove
    · exact List.mem_append_right _ (List.mem_cons_of_mem _ hbelow)
  · intro hcode
    exact htext (hcode.trans (List.prefix_append _ _).isInfix)
  · intro hclause
    rw [← d.trim_comment] at hclause
    have hcomment : d.comment <:+: d.text :=
      (List.suffix_append d.marker.text _).isInfix.trans (List.suffix_append d.code _).isInfix
    exact htext (hclause.trans ((trim_isInfix _).trans hcomment))

/-- The statement is mended, by putting this filter into effect. -/
theorem mended_eq (h : PlainlyDisabled s above d below) (hs : ';' ∉ s) :
    mended s ≠ s ∧ mended s = uncomment s (d.found above.length) := by
  have hne : mended s ≠ s :=
    (mended_ne_iff hs h.isRepairable_eq h.commentedFilter?_eq).2 (Or.inl d.isFilterClause_clause)
  obtain ⟨found, hfound, -, -, htext, -⟩ := exists_of_mended_ne hne
  rw [h.commentedFilter?_eq] at hfound
  exact ⟨hne, by rw [htext, ← Option.some.inj hfound]⟩

/-- It keeps its kind. -/
theorem kind_uncomment (h : PlainlyDisabled s above d below) :
    kind (uncomment s (d.found above.length)) = kind s := by
  rw [kind_uncomment_iff h.commentedFilter?_eq (isRepairable_iff.1 h.isRepairable_eq).1]
  unfold CommentedFilter.keepsKind
  simp [h.kind_before_eq]

end PlainlyDisabled

/-- A statement with an active filter and no marker is valid unless the rules forbid a phrase of
it. -/
theorem valid_iff_of_unmarked {rules : Rules} {index : Int} {s : Text}
    (hmark : ∀ m : Marker, ¬ m.text <:+: s) (hactive : hasActiveFilter s = true) :
    (checkStatement rules index s).valid = true ↔
      (¬ "DROP TABLE".toList <:+: s.upper ∨ rules.allowDrop = true) ∧
        (¬ "TRUNCATE".toList <:+: s.upper ∨ rules.allowTruncate = true) := by
  have hcommented := not_hasCommentedFilter_of_unmarked fun m => breakAt?_eq_none_iff.2 (hmark m)
  rw [checkStatement_valid_iff, ← imp_iff_not_or, ← imp_iff_not_or]
  constructor
  · intro h
    exact ⟨h.noDrop, h.noTruncate⟩
  · intro h
    exact ⟨hcommented, fun _ _ => hactive, h.1, h.2⟩

/-- **A filter that is plainly commented out is always repaired.**  The repair is told of, with
the number of the statement and the clause.  The rewritten statement has no comment, the kind it
had, and its filter in effect; and it is valid unless the rules forbid a phrase of it. -/
theorem plain_filter_repaired (rules : Rules) {t s : Text} {i : Nat} {above below : List Text}
    {d : DisabledLine} (hs : (statements t)[i]? = some s) (h : PlainlyDisabled s above d below) :
    fixMessage (i + 1) d.clause ∈ (repair rules t).fixes ∧
      ∃ s', (statements (repair rules t).fixed)[i]? = some s' ∧
        (repair rules t).validation.statements[i]? = some (checkStatement rules (i + 1) s') ∧
        (∀ m : Marker, ¬ m.text <:+: s') ∧ ¬ blockOpen <:+: s' ∧ kind s' = kind s ∧
        hasActiveFilter s' = true ∧ hasCommentedFilter s' = false ∧
        ((checkStatement rules (i + 1) s').valid = true ↔
          (¬ "DROP TABLE".toList <:+: s'.upper ∨ rules.allowDrop = true) ∧
            (¬ "TRUNCATE".toList <:+: s'.upper ∨ rules.allowTruncate = true)) := by
  have hstatement := isStatement_of_mem_statements (List.mem_of_getElem? hs)
  obtain ⟨hne, hmended⟩ := h.mended_eq hstatement.undivided
  obtain ⟨-, -, -, -, -, hactive⟩ := exists_of_mended_ne hne
  have hfix := fixMessage_mem_fixLines hs h.commentedFilter?_eq hne
  have hunmarked : ∀ m : Marker, ¬ m.text <:+: mended s := by
    intro m
    rw [hmended]
    exact h.unmarked_uncomment m
  refine ⟨?_, mended s, ?_, ?_, hunmarked, ?_, ?_, hactive, ?_, ?_⟩
  · rw [fixes_eq]
    exact hfix
  · rw [statements_fixed, List.getElem?_map, hs]
    rfl
  · rw [getElem?_validation, hs]
    rfl
  · rw [hmended]
    exact h.unblocked_uncomment
  · rw [hmended]
    exact h.kind_uncomment
  · exact not_hasCommentedFilter_of_unmarked fun m => breakAt?_eq_none_iff.2 (hunmarked m)
  · exact valid_iff_of_unmarked hunmarked hactive

/-- A line with no gap behind the marker and a wide one behind the filter word. -/
def wideLine : DisabledLine where
  code := "SET a = 1 ".toList
  marker := .slashes
  gap := []
  word := "wHeRe".toList
  space := "  ".toList
  condition := "id = 7 ".toList
  code_unmarked := fun m => by cases m <;> decide
  code_end := by decide
  gap_blank := by simp
  word_spelled := by decide
  space_gap := ⟨by decide, List.all_eq_true.1 (by decide)⟩
  condition_content := ⟨'i', by decide, by decide⟩
  condition_unmarked := fun m => by cases m <;> decide

/-- That line between two others, in the second of two statements. -/
theorem plain_filter_repaired_between_lines :
    wideLine.clause = "wHeRe  id = 7".toList ∧
      PlainlyDisabled "UPDATE t\nSET a = 1 //wHeRe  id = 7 \n LIMIT 2".toList
        ["UPDATE t".toList] wideLine [" LIMIT 2".toList] ∧
      fixMessage 2 wideLine.clause ∈
        (repair {} "SELECT 1;UPDATE t\nSET a = 1 //wHeRe  id = 7 \n LIMIT 2".toList).fixes ∧
      ∃ s', (statements (repair {}
          "SELECT 1;UPDATE t\nSET a = 1 //wHeRe  id = 7 \n LIMIT 2".toList).fixed)[1]? = some s' ∧
        kind s' = "UPDATE" ∧ hasActiveFilter s' = true ∧ hasCommentedFilter s' = false := by
  have hplain : PlainlyDisabled "UPDATE t\nSET a = 1 //wHeRe  id = 7 \n LIMIT 2".toList
      ["UPDATE t".toList] wideLine [" LIMIT 2".toList] :=
    { lines_eq := by decide +kernel
      unmarked := by
        intro l hl m
        cases m <;> revert l <;> decide
      unblocked := by decide
      inactive := by decide +kernel
      kind_before := by decide +kernel }
  have hs : (statements "SELECT 1;UPDATE t\nSET a = 1 //wHeRe  id = 7 \n LIMIT 2".toList)[1]? =
      some "UPDATE t\nSET a = 1 //wHeRe  id = 7 \n LIMIT 2".toList := by
    decide +kernel
  obtain ⟨hfix, s', hs', -, -, -, hkind, hactive, hcommented, -⟩ :=
    plain_filter_repaired {} hs hplain
  refine ⟨by decide +kernel, hplain, hfix, s', hs', ?_, hactive, hcommented⟩
  rw [hkind]
  decide +kernel

end SqlGuard
