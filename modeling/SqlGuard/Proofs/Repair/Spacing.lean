/-
Normalising, twice and under the scanners.

A line is normalised for three things: its horizontal blanks become single spaces, it loses the
blanks at its ends, and it goes if nothing is left.  What comes out has no horizontal blank but
single spaces inside it (`spaceParted_normaliseLine`), and such a line is written as it stands, so
that a second pass finds nothing to do.

Normalising is not blind to what it touches: it works inside block comments and string literals
too, it collapses fewer blanks than it trims, and it removes whole lines.  That no scanner tells
the outcome from the statement rests on two facts.  The words of each line are kept, and all four
go by the words of a line (or, for the keyword, by the words outside line comments); and a line
that is removed has no words, so none of them finds anything on it.
-/
import SqlGuard.Proofs.Repair.Clause
import SqlGuard.Proofs.Statement.Block
import SqlGuard.Proofs.Statement.Spacing

namespace SqlGuard

open Text

/-! ### A second pass -/

/-- The pieces of a line are divided by single spaces, and so is what trimming leaves of them. -/
theorem spaceParted_normaliseLine (line : Text) :
    SpaceParted isHorizontal (normaliseLine line) := by
  have hpiece : ∀ w ∈ line.pieces isHorizontal, w ≠ [] ∧ ∀ c ∈ w, isHorizontal c = false := by
    intro w hw
    obtain ⟨hmem, hne⟩ := List.mem_filter.1 hw
    exact ⟨by simpa using hne, fun c hc => (mem_of_mem_splitOnP hmem hc).2⟩
  have hbare : ∀ c : Char, isBlank c = false → isHorizontal c = false := by
    intro c hc
    rw [Bool.eq_false_iff]
    intro hhorizontal
    rw [isBlank_of_isHorizontal hhorizontal] at hc
    simp at hc
  have hends := bareEnds_normaliseLine line
  refine ⟨?_, ?_, fun c hc => hbare c (hends.1 c hc), fun c hc => hbare c (hends.2 c hc)⟩
  · intro c hc hhorizontal
    rcases mem_intercalate (mem_of_mem_trim hc) with hspace | ⟨w, hw, hcw⟩
    · exact hspace
    · rw [(hpiece w hw).2 c hcw] at hhorizontal
      simp at hhorizontal
  · intro hdouble
    refine not_double_intercalate ?_ (hdouble.trans (trim_isInfix _))
    intro w hw
    refine ⟨(hpiece w hw).1, fun hspace => ?_⟩
    have := (hpiece w hw).2 ' ' hspace
    simp [isHorizontal] at this

@[simp]
theorem normaliseLine_normaliseLine (line : Text) :
    normaliseLine (normaliseLine line) = normaliseLine line := by
  conv_lhs => rw [normaliseLine, (spaceParted_normaliseLine line).intercalate_pieces]
  exact trim_eq_self_iff.2 (bareEnds_normaliseLine line)

theorem normaliseLine_of_mem_normalLines {s l : Text} (h : l ∈ normalLines s) :
    normaliseLine l = l := by
  obtain ⟨line, -, rfl⟩ := List.mem_map.1 (List.mem_filter.1 h).1
  exact normaliseLine_normaliseLine line

/-- A normalised text has its normalised lines, unless there are none. -/
theorem lines_normalise {s : Text} (h : normalise s ≠ []) :
    (normalise s).lines = normalLines s := by
  refine lines_unlines ?_ fun l => not_mem_of_mem_normalLines
  intro hnil
  exact h (congrArg unlines hnil)

theorem normalise_normalise (s : Text) : normalise (normalise s) = normalise s := by
  by_cases hnil : normalise s = []
  · rw [hnil]
    rfl
  · have hlines : normalLines (normalise s) = normalLines s := by
      have hsame : (normalLines s).map normaliseLine = normalLines s := by
        rw [List.map_congr_left fun l => normaliseLine_of_mem_normalLines, List.map_id']
      conv_lhs => rw [normalLines, lines_normalise hnil, hsame]
      exact List.filter_eq_self.2 fun l hl => (List.mem_filter.1 hl).2
    exact congrArg unlines hlines

/-- No line of a normalised text is blank, or blank at an end. -/
theorem hasContent_of_mem_normalLines {s l : Text} (h : l ∈ normalLines s) :
    l.HasContent ∧ l.BareEnds := by
  obtain ⟨hmem, hne⟩ := List.mem_filter.1 h
  obtain ⟨line, -, rfl⟩ := List.mem_map.1 hmem
  have hends := bareEnds_normaliseLine line
  obtain ⟨c, rest, heq⟩ := List.exists_cons_of_ne_nil (by simpa using hne)
  exact ⟨⟨c, by simp [heq], hends.1 c (by simp [heq])⟩, hends⟩

/-! ### The scanners -/

theorem kind_normalise (s : Text) : kind (normalise s) = kind s := by
  have hlive : (dropLineComments (normalise s)).words = (dropLineComments s).words := by
    rw [words_dropLineComments_eq_liveWords, words_dropLineComments_eq_liveWords,
      liveWords_normalise]
  rw [kind_congr hlive, kind_congr rfl]

theorem hasCommentedFilter_normalise (s : Text) :
    hasCommentedFilter (normalise s) = hasCommentedFilter s :=
  any_lines_normalise (by decide) disablesFilter_congr s

/-- The filter that is found may be another text, but one is found or none is. -/
theorem isSome_commentedFilter?_normalise (s : Text) :
    (commentedFilter? (normalise s)).isSome = (commentedFilter? s).isSome := by
  rw [isSome_commentedFilter?, isSome_commentedFilter?]
  refine any_lines_normalise (by decide) ?_ s
  intro l k h
  exact congrArg Marker.all.any (funext fun m => isSome_filterClause?_congr m h)

/-- **Normalising is done in one pass, and no scanner sees it.** -/
theorem normalise_keeps_classification (s : Text) :
    normalise (normalise s) = normalise s ∧
    (normalise s = [] ∨ ∀ l ∈ (normalise s).lines, l.HasContent ∧ l.BareEnds) ∧
    kind (normalise s) = kind s ∧
    hasActiveFilter (normalise s) = hasActiveFilter s ∧
    hasCommentedFilter (normalise s) = hasCommentedFilter s ∧
    (commentedFilter? (normalise s)).isSome = (commentedFilter? s).isSome := by
  refine ⟨normalise_normalise s, ?_, kind_normalise s, hasActiveFilter_normalise s,
    hasCommentedFilter_normalise s, isSome_commentedFilter?_normalise s⟩
  by_cases hnil : normalise s = []
  · exact Or.inl hnil
  · refine Or.inr fun l hl => ?_
    rw [lines_normalise hnil] at hl
    exact hasContent_of_mem_normalLines hl

-- The clause that is found may change: its inner spacing is normalised with the rest.
example : (commentedFilter? "DELETE FROM t\n\n -- WHERE  id = 1".toList).map (·.clause) =
      some "WHERE  id = 1".toList ∧
    (commentedFilter? (normalise "DELETE FROM t\n\n -- WHERE  id = 1".toList)).map (·.clause) =
      some "WHERE id = 1".toList := by
  decide

end SqlGuard
