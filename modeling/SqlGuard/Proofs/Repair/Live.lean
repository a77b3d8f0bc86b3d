/-
What a repair leaves outside line comments.

The live words of a statement are the words that its lines hold before their first marker.
A repair cuts a line at the marker that was found, and then once more, because a marker of
the other kind may come first; it puts the clause behind what is left; and it normalises all
lines and drops the empty ones.  The clause may hold markers of its own.

None of this loses a live word or brings another one to life.  What is put in front of the
clause is the code that the whole line had (`liveWords_take_succ`), the rewritten line has
the live words of the clause and no others behind it (`words_activeLine`), and spacing does
not count.  So the live words of the rewritten statement are known from those of the old one
(`liveWords_uncomment`), and everything that depends on them is.
-/
import SqlGuard.Proofs.Repair.Statement
import SqlGuard.Proofs.Statement.Filter

namespace SqlGuard

open Text

/-! ### Live words -/

/-- The words of lines outside line comments. -/
def liveWords (ls : List Text) : List Text :=
  ls.flatMap fun line => (codePart line).words

theorem liveWords_append (ls ks : List Text) :
    liveWords (ls ++ ks) = liveWords ls ++ liveWords ks :=
  List.flatMap_append

theorem liveWords_cons (l : Text) (ls : List Text) :
    liveWords (l :: ls) = (codePart l).words ++ liveWords ls :=
  List.flatMap_cons

theorem liveWords_eq (ls : List Text) :
    liveWords ls = ls.flatMap fun line => (cutMarkers Marker.all line).words := by
  unfold liveWords
  simp only [words_codePart]

theorem words_dropLineComments_eq_liveWords (s : Text) :
    (dropLineComments s).words = liveWords s.lines := by
  rw [words_dropLineComments, liveWords_eq]

/-- The live words of joined lines are those of the lines; there need not be any. -/
theorem liveWords_lines_unlines {ls : List Text} (h : ∀ l ∈ ls, '\n' ∉ l) :
    liveWords (unlines ls).lines = liveWords ls := by
  rw [← words_dropLineComments_eq_liveWords, words_dropLineComments_unlines h, liveWords_eq]

/-- Normalising keeps the live words. -/
theorem liveWords_normalise (s : Text) : liveWords (normalise s).lines = liveWords s.lines := by
  show liveWords (unlines (normalLines s)).lines = liveWords s.lines
  rw [liveWords_lines_unlines fun l => not_mem_of_mem_normalLines, liveWords_eq, liveWords_eq,
    normalLines, flatMap_filter_isEmpty rfl, List.flatMap_map]
  congr 1
  funext l
  exact words_cutMarkers_congr (words_normaliseLine l)

/-! ### The clause between two texts -/

namespace CommentedFilter

variable {s : Text} {found : CommentedFilter}

/-- The statement up to the marker of a commented filter. -/
def textBefore (found : CommentedFilter) (s : Text) : Text :=
  unlines (s.lines.take found.line ++ [found.before])

/-- The lines of the statement behind the one with the commented filter. -/
def textBehind (found : CommentedFilter) (s : Text) : Text :=
  unlines (s.lines.drop (found.line + 1))

/-- The part of the clause that is live once the clause is: the comments in it stay. -/
def liveClause (found : CommentedFilter) : Text :=
  cutMarkers Marker.all found.clause

theorem line_lt_length (h : commentedFilter? s = some found) : found.line < s.lines.length := by
  obtain ⟨line, m, comment, hline, -, -, -⟩ := exists_of_commentedFilter? h
  exact (List.getElem?_eq_some_iff.1 hline).1

theorem feed_not_mem_before (h : commentedFilter? s = some found) : '\n' ∉ found.before := by
  obtain ⟨line, m, comment, hline, hcut, -, -⟩ := exists_of_commentedFilter? h
  intro hc
  refine feed_not_mem_of_mem_lines (List.mem_of_getElem? hline) ?_
  rw [eq_append_of_breakAt? hcut]
  exact List.mem_append_left _ hc

/-- The clause starts with the filter word, at least as the beginning of a longer one. -/
theorem exists_filterWord (h : commentedFilter? s = some found) :
    ∃ w r, found.clause = w ++ r ∧ w.map Char.toLower = filterWord := by
  obtain ⟨line, m, comment, -, -, -, hwhere⟩ := exists_of_commentedFilter? h
  exact startsWith_filterWord_iff.1 hwhere

/-- So the live part of the clause starts with a character that may open a condition. -/
theorem exists_cons_liveClause (h : commentedFilter? s = some found) :
    ∃ d rest, found.liveClause = d :: rest ∧ isBlank d = false ∧ d.toLower = 'w' := by
  obtain ⟨w, r, hclause, hw⟩ := exists_filterWord h
  obtain ⟨d, w', hd, hlower, -⟩ := List.map_eq_cons_iff.1 hw
  refine ⟨d, w' ++ cutMarkers Marker.all r, ?_, solid_of_filterWord hw d (by rw [hd]; simp), hlower⟩
  unfold liveClause
  rw [hclause, cutMarkers_filterWord_append hw, hd]
  rfl

/-- The code before the marker that was found is all the code of its line. -/
theorem liveWords_take_succ (h : commentedFilter? s = some found) :
    liveWords (s.lines.take (found.line + 1)) =
      liveWords (s.lines.take found.line) ++ (codePart found.before).words := by
  obtain ⟨line, m, comment, hline, hcut, -, -⟩ := exists_of_commentedFilter? h
  have hbefore : found.before = upTo m.text line := by simp [upTo, hcut]
  rw [List.take_add_one, hline, liveWords_append, hbefore, words_codePart, cutMarkers_upTo,
    ← words_codePart]
  simp [liveWords]

theorem words_textBefore (h : commentedFilter? s = some found) :
    (dropLineComments (found.textBefore s)).words = liveWords (s.lines.take (found.line + 1)) := by
  rw [words_dropLineComments_eq_liveWords, textBefore, liveWords_lines_unlines, liveWords_append,
    liveWords_take_succ h]
  · simp [liveWords]
  · intro l hl hc
    rcases List.mem_append.1 hl with hold | hbefore
    · exact feed_not_mem_of_mem_lines (List.mem_of_mem_take hold) hc
    · rw [List.mem_singleton.1 hbefore] at hc
      exact feed_not_mem_before h hc

theorem words_textBehind (found : CommentedFilter) (s : Text) :
    (dropLineComments (found.textBehind s)).words = liveWords (s.lines.drop (found.line + 1)) := by
  rw [words_dropLineComments_eq_liveWords, textBehind, liveWords_lines_unlines]
  intro l hl
  exact feed_not_mem_of_mem_lines (List.mem_of_mem_drop hl)

/-- Without line comments, a statement is the text before its commented filter and the text
behind it. -/
theorem words_dropLineComments_eq (h : commentedFilter? s = some found) :
    (dropLineComments s).words =
      (dropLineComments (found.textBefore s) ++
        '\n' :: dropLineComments (found.textBehind s)).words := by
  rw [words_append_blank (by decide), words_textBefore h, words_textBehind, ← liveWords_append,
    List.take_append_drop, words_dropLineComments_eq_liveWords]

/-- The rewritten line holds the code of the old one and the clause up to its first marker. -/
theorem cutMarkers_activeLine (found : CommentedFilter) :
    cutMarkers Marker.all found.activeLine = codePart found.before ++ ' ' :: found.liveClause := by
  have hcode : ∀ m : Marker, breakAt? m.text (codePart found.before) = none :=
    fun m => breakAt?_cutMarkers m _
  unfold activeLine
  rw [cutMarkers_append (by decide) hcode]
  rfl

theorem words_activeLine (found : CommentedFilter) :
    (codePart found.activeLine).words =
      (codePart found.before).words ++ (codePart found.clause).words := by
  rw [words_codePart, cutMarkers_activeLine, words_append_blank (by decide), liveClause,
    ← words_codePart]

/-- The lines of a statement with the one that disables the filter rewritten. -/
theorem set_activeLine (h : commentedFilter? s = some found) :
    s.lines.set found.line found.activeLine =
      s.lines.take found.line ++ found.activeLine :: s.lines.drop (found.line + 1) := by
  rw [List.set_eq_take_append_cons_drop, if_pos (line_lt_length h)]

end CommentedFilter

/-! ### The rewritten statement -/

/-- **A repair puts the live words of the clause behind those of the lines down to its own.** -/
theorem liveWords_uncomment {s : Text} {found : CommentedFilter}
    (h : commentedFilter? s = some found) :
    liveWords (uncomment s found).lines =
      liveWords (s.lines.take (found.line + 1)) ++
        ((codePart found.clause).words ++ liveWords (s.lines.drop (found.line + 1))) := by
  show liveWords (normalise (unlines (s.lines.set found.line found.activeLine))).lines = _
  rw [liveWords_normalise, liveWords_lines_unlines fun l => found.not_mem_of_mem_set h,
    found.set_activeLine h, liveWords_append, liveWords_cons, found.words_activeLine,
    found.liveWords_take_succ h]
  simp only [List.append_assoc]

/-- The same of the texts before the marker and behind its line. -/
theorem words_dropLineComments_uncomment {s : Text} {found : CommentedFilter}
    (h : commentedFilter? s = some found) :
    (dropLineComments (uncomment s found)).words =
      (dropLineComments (found.textBefore s) ++
        ' ' :: (found.liveClause ++ '\n' :: dropLineComments (found.textBehind s))).words := by
  rw [words_dropLineComments_eq_liveWords, liveWords_uncomment h, words_append_blank (by decide),
    words_append_blank (by decide), found.words_textBefore h, found.words_textBehind,
    words_codePart]
  rfl

/-- **Putting a filter into effect keeps all live code and adds only the clause.**  The live
words of the new statement are those of the lines down to the one with the filter, then those
of the clause, then those of the lines below. -/
theorem liveWords_activation {s : Text} {found : CommentedFilter} {a : Activation}
    (hfound : commentedFilter? s = some found) (ha : activate? s = some a) :
    a.clause = found.clause ∧
      liveWords a.text.lines =
        liveWords (s.lines.take (found.line + 1)) ++
          ((codePart found.clause).words ++ liveWords (s.lines.drop (found.line + 1))) := by
  obtain ⟨found', hfound', htext, hclause, -⟩ := activate?_eq_some_iff.1 ha
  have hsame : found' = found := Option.some.inj (hfound'.symm.trans hfound)
  rw [hsame] at htext hclause
  rw [htext]
  exact ⟨hclause, liveWords_uncomment hfound⟩

/-- A marker of the other kind before the one that is found, another in the clause, and more
code below: the words that count are kept, and those in comments stay there. -/
theorem liveWords_activation_between_markers :
    commentedFilter? "DELETE FROM t --x // WHERE a = 1 // b\n\tLIMIT 5".toList =
        some { line := 0, before := "DELETE FROM t --x ".toList,
               clause := "WHERE a = 1 // b".toList } ∧
      ∃ a, activate? "DELETE FROM t --x // WHERE a = 1 // b\n\tLIMIT 5".toList = some a ∧
        liveWords a.text.lines =
          ["DELETE", "FROM", "t", "WHERE", "a", "=", "1", "LIMIT", "5"].map String.toList := by
  have hfound : commentedFilter? "DELETE FROM t --x // WHERE a = 1 // b\n\tLIMIT 5".toList =
      some { line := 0, before := "DELETE FROM t --x ".toList,
             clause := "WHERE a = 1 // b".toList } := by
    decide +kernel
  have ha : activate? "DELETE FROM t --x // WHERE a = 1 // b\n\tLIMIT 5".toList =
      some { text := "DELETE FROM t WHERE a = 1 // b\nLIMIT 5".toList,
             clause := "WHERE a = 1 // b".toList } := by
    decide +kernel
  refine ⟨hfound, _, ha, (liveWords_activation hfound ha).2.trans ?_⟩
  decide +kernel

end SqlGuard
