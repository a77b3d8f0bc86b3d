/-
Which filter a repair puts into effect.

A repair is told of by the clause that it took out of a comment, and one would expect that
clause to be the filter that the statement has now.  The code does not ask for this.  It takes
any comment that starts with the letters of the filter word, and then asks only whether the
rewritten statement has an active filter, wherever it may be.

The statement had none before, so the new one runs through the clause, and there are three
ways in which it can (`mended_ne_iff`).  The clause is a filter from its first character on
(`IsFilterClause`), which is what was meant.  Or its first word is longer than the filter word,
or has no condition, and a filter starts further on.  Or the code before the marker ends in a
filter word that had no condition, and the clause is taken for one: a clause that is nothing
but the filter word then counts as put into effect (`bare_word_told_as_filter`).
-/
import SqlGuard.Proofs.Repair.Input
import SqlGuard.Proofs.Repair.Live
import SqlGuard.Proofs.Statement.Filter

namespace SqlGuard

open Text

/-! ### Clauses that filter by themselves -/

/-- A clause that is a filter from its first character on: the filter word, a gap, and then a
character that starts neither a gap nor a comment. -/
def IsFilterClause (clause : Text) : Prop :=
  ∃ w gap c rest, clause = w ++ (gap ++ c :: rest) ∧ w.map Char.toLower = filterWord ∧
    IsGap gap ∧ isBlank c = false ∧ ∀ m : Marker, ¬ m.text <+: c :: rest

/-- A filter word and a gap stay in front of the cut. -/
theorem cutMarkers_filterWord_gap {w gap : Text} (hw : w.map Char.toLower = filterWord)
    (hgap : IsGap gap) (r : Text) :
    cutMarkers Marker.all (w ++ (gap ++ r)) = w ++ (gap ++ cutMarkers Marker.all r) := by
  rw [cutMarkers_filterWord_append hw, cutMarkers_blanks_append hgap.2]

/-- A clause filters by itself exactly when a filter starts it and is still there when the
comments in the clause are cut off. -/
theorem isFilterClause_iff {clause : Text} :
    IsFilterClause clause ↔
      startsFilter (fun _ => true) [] (cutMarkers Marker.all clause) = true := by
  rw [startsFilter_iff]
  constructor
  · intro h
    obtain ⟨w, gap, c, rest, rfl, hw, hgap, hc, hmark⟩ := h
    have hstart : ∀ m : Marker, m.text.isPrefixOf (c :: rest) = false := by
      intro m
      rw [Bool.eq_false_iff]
      intro hp
      exact hmark m (List.isPrefixOf_iff_prefix.1 hp)
    rw [cutMarkers_filterWord_gap hw hgap, cutMarkers_cons hstart]
    exact ⟨w, _, rfl, hw, rfl, hasCondition_iff.2 ⟨gap, c, _, rfl, hgap, hc, rfl⟩⟩
  · intro h
    obtain ⟨w, r, heq, hw, -, hcondition⟩ := h
    obtain ⟨gap, c, x, rfl, hgap, hc, -⟩ := hasCondition_iff.1 hcondition
    obtain ⟨tail, htail⟩ := cutMarkers_isPrefix clause
    rw [heq] at htail
    have hclause : clause = w ++ (gap ++ c :: (x ++ tail)) := by simp [← htail]
    refine ⟨w, gap, c, x ++ tail, hclause, hw, hgap, hc, ?_⟩
    intro m hp
    -- A marker there would have been cut off together with the character.
    rw [hclause, cutMarkers_filterWord_gap hw hgap,
      cutMarkers_of_isPrefixOf (List.isPrefixOf_iff_prefix.2 hp)] at heq
    simp at heq

/-! ### A space between two texts -/

/-- Whether a filter starts behind the first character of a text. -/
def FiltersFurtherOn (s : Text) : Prop :=
  ∃ u v, s = u ++ v ∧ u ≠ [] ∧ startsFilter (· != ';') u.reverse v = true

/-- Whether a text ends in the filter word, without a condition behind it. -/
def EndsInFilterWord (s : Text) : Prop :=
  ∃ u w b, s = u ++ (w ++ b) ∧ w.map Char.toLower = filterWord ∧
    u.getLast?.any isWord = false ∧ ∀ c ∈ b, isBlank c = true

theorem mentionsFilter_cases {s : Text} :
    mentionsFilter s = true ↔ startsFilter (· != ';') [] s = true ∨ FiltersFurtherOn s := by
  unfold mentionsFilter
  rw [hasCut_iff]
  constructor
  · intro h
    obtain ⟨u, v, heq, hstarts⟩ := h
    by_cases hu : u = []
    · rw [hu] at heq hstarts
      rw [heq]
      exact Or.inl hstarts
    · exact Or.inr ⟨u, v, heq, hu, hstarts⟩
  · intro h
    rcases h with hstarts | ⟨u, v, heq, -, hstarts⟩
    · exact ⟨[], s, rfl, hstarts⟩
    · exact ⟨u, v, heq, hstarts⟩

/-- A condition that is found across a space is found before it, or there are only blanks
before it. -/
theorem hasCondition_append_cases {opens : Char → Bool} {b r : Text}
    (h : hasCondition opens (b ++ r) = true) :
    hasCondition opens b = true ∨ ∀ c ∈ b, isBlank c = true := by
  by_cases hblank : ∀ c ∈ b, isBlank c = true
  · exact Or.inr hblank
  · refine Or.inl ?_
    unfold hasCondition at h ⊢
    have hrest : b.dropWhile isBlank ≠ [] := by
      intro hnil
      exact hblank (List.dropWhile_eq_nil_iff.1 hnil)
    have hne : b ≠ [] := by
      intro hnil
      exact hrest (by rw [hnil]; rfl)
    rw [List.dropWhile_append, if_neg (by simpa using hrest), List.head?_append_of_ne_nil _ hrest,
      List.head?_append_of_ne_nil _ hne] at h
    exact h

/-- **A filter that is not in the code before a space starts behind the space, or the code ends
in the filter word.**  The text behind the space has to start with what may open a condition. -/
theorem mentionsFilter_append_space_iff {code : Text} {d : Char} {rest : Text}
    (hcode : mentionsFilter code = false) (hblank : isBlank d = false) (hopens : d ≠ ';') :
    mentionsFilter (code ++ ' ' :: d :: rest) = true ↔
      mentionsFilter (d :: rest) = true ∨ EndsInFilterWord code := by
  have hspace : isBlank ' ' = true := by decide
  constructor
  · intro h
    obtain ⟨u, w, r, heq, hw, hbefore, hcondition⟩ := hasFilter_iff.1 h
    rcases solid_side_of_blank hspace (ne_nil_of_filterWord hw) (solid_of_filterWord hw) heq with
      ⟨b, hcodeb, hr⟩ | ⟨a, hu, hlive⟩
    · refine Or.inr ⟨u, w, b, hcodeb, hw, hbefore, ?_⟩
      rw [hr] at hcondition
      rcases hasCondition_append_cases hcondition with hcond | hblanks
      · have hmentions : mentionsFilter code = true :=
          hasFilter_iff.2 ⟨u, w, b, hcodeb, hw, hbefore, hcond⟩
        rw [hcode] at hmentions
        simp at hmentions
      · exact hblanks
    · refine Or.inl (hasFilter_iff.2 ⟨a, w, r, hlive, hw, ?_, hcondition⟩)
      by_cases ha : a = []
      · rw [ha]; rfl
      · rw [hu, List.getLast?_append_of_ne_nil _ (by simp), List.getLast?_cons_of_ne_nil ha]
          at hbefore
        exact hbefore
  · intro h
    rcases h with hmentions | ⟨u, w, b, hcodeb, hw, hbefore, hblanks⟩
    · exact hasFilter_append_blank hspace hmentions code
    · have hgap : IsGap (b ++ [' ']) := by
        refine ⟨by simp, ?_⟩
        intro c hc
        rcases List.mem_append.1 hc with hcb | hcs
        · exact hblanks c hcb
        · rw [List.mem_singleton.1 hcs]; exact hspace
      refine hasFilter_iff.2 ⟨u, w, b ++ ' ' :: d :: rest, by simp [hcodeb], hw, hbefore, ?_⟩
      exact hasCondition_iff.2 ⟨b ++ [' '], d, rest, by simp, hgap, hblank, by simpa using hopens⟩

/-! ### The filter of the rewritten statement -/

theorem hasActiveFilter_unlines {ls : List Text} (h : ∀ l ∈ ls, '\n' ∉ l) :
    hasActiveFilter (unlines ls) = true ↔
      ∃ line ∈ ls, mentionsFilter (cutMarkers Marker.all line) = true := by
  rw [hasActiveFilter_iff, ← List.any_eq_true, any_lines_unlines rfl h, List.any_eq_true]

/-- Normalising makes no filter and loses none. -/
theorem hasActiveFilter_normalise (s : Text) :
    hasActiveFilter (normalise s) = hasActiveFilter s := by
  have hline : ∀ {l k : Text}, l.words = k.words →
      mentionsFilter (cutMarkers Marker.all l) = mentionsFilter (cutMarkers Marker.all k) :=
    fun h => mentionsFilter_congr (words_cutMarkers_congr h)
  rw [Bool.eq_iff_iff, hasActiveFilter_iff, hasActiveFilter_iff, ← List.any_eq_true,
    ← List.any_eq_true, any_lines_normalise rfl hline]

namespace CommentedFilter

variable {s : Text} {found : CommentedFilter}

/-- In a statement without an active filter, the rewritten line is the only one to look at. -/
theorem hasActiveFilter_uncomment_iff (h : commentedFilter? s = some found)
    (hinactive : hasActiveFilter s = false) :
    hasActiveFilter (uncomment s found) = true ↔
      mentionsFilter (codePart found.before ++ ' ' :: found.liveClause) = true := by
  have hnone : ∀ line ∈ s.lines, ¬ mentionsFilter (cutMarkers Marker.all line) = true := by
    intro line hline hfilter
    rw [hasActiveFilter_iff.2 ⟨line, hline, hfilter⟩] at hinactive
    simp at hinactive
  show hasActiveFilter (normalise (unlines (s.lines.set found.line found.activeLine))) = true ↔ _
  rw [hasActiveFilter_normalise, hasActiveFilter_unlines fun l => found.not_mem_of_mem_set h,
    ← found.cutMarkers_activeLine]
  constructor
  · intro hactive
    obtain ⟨l, hl, hfilter⟩ := hactive
    rcases List.mem_or_eq_of_mem_set hl with hold | hnew
    · exact absurd hfilter (hnone l hold)
    · rw [← hnew]; exact hfilter
  · intro hfilter
    exact ⟨found.activeLine, List.mem_set (line_lt_length h) _, hfilter⟩

/-- The code before the marker has no filter if the statement has no active one. -/
theorem mentionsFilter_before (h : commentedFilter? s = some found)
    (hinactive : hasActiveFilter s = false) : mentionsFilter (codePart found.before) = false := by
  obtain ⟨line, m, comment, hline, hcut, -, -⟩ := exists_of_commentedFilter? h
  have hbefore : found.before = upTo m.text line := by simp [upTo, hcut]
  rw [mentionsFilter_congr (words_codePart found.before), hbefore, cutMarkers_upTo,
    Bool.eq_false_iff]
  intro hfilter
  rw [hasActiveFilter_iff.2 ⟨line, List.mem_of_getElem? hline, hfilter⟩] at hinactive
  simp at hinactive

theorem semicolon_not_mem_liveClause (h : commentedFilter? s = some found) (hs : ';' ∉ s) :
    ';' ∉ found.liveClause := by
  intro hc
  have hclause : ';' ∈ found.clause := (cutMarkers_isPrefix found.clause).subset hc
  have hline : ';' ∈ found.activeLine :=
    List.mem_append_right _ (List.mem_cons_of_mem _ hclause)
  rcases mem_activeLine h hline with hspace | ⟨hmem, -⟩
  · exact absurd hspace (by decide)
  · exact hs hmem

/-- Without a semicolon in it, a live clause that starts a filter is a filter clause. -/
theorem startsFilter_liveClause_iff (h : commentedFilter? s = some found) (hs : ';' ∉ s) :
    startsFilter (· != ';') [] found.liveClause = true ↔ IsFilterClause found.clause := by
  have hclause := semicolon_not_mem_liveClause h hs
  rw [isFilterClause_iff, startsFilter_iff, startsFilter_iff]
  show (∃ w r, found.liveClause = w ++ r ∧ _) ↔ ∃ w r, found.liveClause = w ++ r ∧ _
  refine exists_congr fun w => exists_congr fun r => and_congr_right fun heq => ?_
  have hopens : hasCondition (· != ';') r = hasCondition (fun _ => true) r := by
    refine hasCondition_congr ?_
    intro c hc
    have hne : c ≠ ';' := by
      intro hsemi
      exact hclause (by rw [heq, ← hsemi]; exact List.mem_append_right _ hc)
    simp [hne]
  rw [hopens]

end CommentedFilter

/-! ### What is told -/

/-- A repairable statement is rewritten exactly when its filter is then active. -/
theorem mended_ne_iff_active {s : Text} {found : CommentedFilter} (hrep : isRepairable s = true)
    (h : commentedFilter? s = some found) :
    mended s ≠ s ↔ hasActiveFilter (uncomment s found) = true := by
  rw [Ne, mended_eq_self_iff]
  unfold repairOf? activate?
  rw [if_pos hrep, h]
  by_cases hactive : hasActiveFilter (uncomment s found) = true
  · simp [hactive]
  · simp [hactive]

/-- **The three ways in which a clause takes effect.** -/
theorem mended_ne_iff {s : Text} {found : CommentedFilter} (hs : ';' ∉ s)
    (hrep : isRepairable s = true) (h : commentedFilter? s = some found) :
    mended s ≠ s ↔
      IsFilterClause found.clause ∨ FiltersFurtherOn found.liveClause ∨
        EndsInFilterWord (codePart found.before) := by
  have hinactive : hasActiveFilter s = false := (isRepairable_iff.1 hrep).2.1
  have hbefore := found.mentionsFilter_before h hinactive
  obtain ⟨d, rest, hlive, hblank, hlower⟩ := found.exists_cons_liveClause h
  have hopens : d ≠ ';' := by
    intro hd
    rw [hd] at hlower
    exact absurd hlower (by decide)
  rw [mended_ne_iff_active hrep h, found.hasActiveFilter_uncomment_iff h hinactive,
    ← found.startsFilter_liveClause_iff h hs, ← or_assoc, ← mentionsFilter_cases, hlive,
    mentionsFilter_append_space_iff hbefore hblank hopens]

/-- **What the lines that tell of repairs name.**  Each line names, with the number of its
statement, a clause that starts with the letters of the filter word; it is a filter by itself,
or holds one further on, or is taken for the condition of a filter word before the marker.  And
a statement that repairs are for is told of whenever one of the three is the case. -/
theorem fixes_name_clauses (rules : Rules) (t : Text) :
    List.Forall₂ (fun line p => ∃ found, commentedFilter? p.1 = some found ∧
        line = fixMessage (p.2 + 1) found.clause ∧
        (∃ w r, found.clause = w ++ r ∧ w.map Char.toLower = filterWord) ∧
        (IsFilterClause found.clause ∨ FiltersFurtherOn found.liveClause ∨
          EndsInFilterWord (codePart found.before)))
      (repair rules t).fixes ((statements t).zipIdx.filter fun p => mended p.1 ≠ p.1) ∧
    ∀ s ∈ statements t, ∀ found, isRepairable s = true → commentedFilter? s = some found →
      (mended s ≠ s ↔ IsFilterClause found.clause ∨ FiltersFurtherOn found.liveClause ∨
        EndsInFilterWord (codePart found.before)) := by
  have hexact : ∀ s ∈ statements t, ∀ found, isRepairable s = true →
      commentedFilter? s = some found →
      (mended s ≠ s ↔ IsFilterClause found.clause ∨ FiltersFurtherOn found.liveClause ∨
        EndsInFilterWord (codePart found.before)) := by
    intro s hs found hrep hfound
    exact mended_ne_iff (isStatement_of_mem_statements hs).undivided hrep hfound
  refine ⟨?_, hexact⟩
  have hmember : ∀ p ∈ (statements t).zipIdx.filter fun p => mended p.1 ≠ p.1,
      p.1 ∈ statements t ∧ mended p.1 ≠ p.1 := by
    intro p hp
    obtain ⟨hmem, hne⟩ := List.mem_filter.1 hp
    exact ⟨List.mem_of_getElem? (List.mk_mem_zipIdx_iff_getElem?.1 hmem), by simpa using hne⟩
  rw [fixes_eq]
  have hlines := (List.forall₂_and_left _ _).2 ⟨hmember, (forall₂_fixLines (statements t)).flip⟩
  refine hlines.flip.imp ?_
  intro line p h
  obtain ⟨⟨hs, hne⟩, found, hfound, hline⟩ := h
  obtain ⟨-, -, hrep, -, -, -⟩ := exists_of_mended_ne hne
  exact ⟨found, hfound, hline, found.exists_filterWord hfound,
    (hexact p.1 hs found hrep hfound).1 hne⟩

/-- A filter word in the code takes the one in the comment for its condition.  The clause that is
told of is the bare word, which filters nothing. -/
theorem bare_word_told_as_filter :
    (repair {} "DELETE FROM t WHERE -- WHERE".toList).fixes = [fixMessage 1 "WHERE".toList] ∧
      (repair {} "DELETE FROM t WHERE -- WHERE".toList).fixed =
        "DELETE FROM t WHERE WHERE;".toList ∧
      (repair {} "DELETE FROM t WHERE -- WHERE".toList).validation.isValid = true ∧
      ¬ IsFilterClause "WHERE".toList := by
  rw [isFilterClause_iff]
  decide +kernel

-- A longer word that starts with the letters of the filter word is told of as the filter.
example : (repair {} "DELETE FROM t\n-- WHEREVER WHERE id = 1".toList).fixes =
    [fixMessage 1 "WHEREVER WHERE id = 1".toList] := by
  decide +kernel

end SqlGuard
