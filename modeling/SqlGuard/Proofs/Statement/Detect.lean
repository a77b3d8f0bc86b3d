/-
The detector and the extractor of commented filters.

Two scanners look for a filter that was commented out.  The detector decides whether there is
one, the extractor says where, and they were written apart: the detector wants a line in one of
two shapes, wherever in the line the marker stands, and the extractor takes what comes behind
the first occurrence of a marker, the dashes before the slashes.

Neither implies the other.  The detector finds filters on a comment line that the extractor does
not, because words stand before them; the extractor takes comments that the detector refuses,
because the code ends in half a marker or the filter word runs on.  What holds is that the
detector never looks at live code alone, since what it finds stands behind the first marker of
its line; and that a clause which the extractor hands out is one that the detector saw, if a
blank follows the filter word and the code before the marker does not end in half of it.
-/
import SqlGuard.Proofs.Statement.Grammar

namespace SqlGuard

open Text

/-! ### What the detector finds -/

/-- What disables a filter is a filter word behind the first marker of the line. -/
theorem exists_firstMarker_of_disablesFilter {line : Text} (h : disablesFilter line = true) :
    ∃ before m comment, FirstMarker line before m comment ∧
      ∃ u w v, comment = u ++ (w ++ v) ∧ w.map Char.toLower = filterWord := by
  obtain ⟨a, m, b, w, v, heq, hw⟩ := exists_marker_of_disablesFilter h
  have hmark : m.text <:+: line := ⟨a, b ++ (w ++ v), by rw [heq, List.append_assoc]⟩
  obtain ⟨before, m', comment, hfirst⟩ := exists_firstMarker hmark
  obtain ⟨u, hu⟩ := hfirst.suffix heq
  exact ⟨before, m', comment, hfirst, u ++ b, w, v, by rw [← hu]; simp, hw⟩

/-! ### What the extractor finds -/

/-- Behind a filter word and a blank, a trimmed text goes on. -/
theorem hasCondition_of_bareEnds {w r : Text} {c : Char} (hends : BareEnds (w ++ c :: r))
    (hc : isBlank c = true) : hasCondition (fun _ => true) (c :: r) = true := by
  have hlast : ∀ d ∈ (c :: r).getLast?, isBlank d = false := by
    intro d hd
    refine hends.2 d ?_
    rw [List.getLast?_append_of_ne_nil _ (by simp)]
    exact hd
  rcases List.eq_nil_or_concat' r with rfl | ⟨r', d, rfl⟩
  · have hsolid := hlast c (by simp)
    rw [hc] at hsolid
    simp at hsolid
  · refine hasCondition_of_content hc (by simp) (hlast d ?_)
    rw [← List.cons_append, List.getLast?_concat]
    rfl

/-- A comment that is trimmed to a filter word and a blank and more makes the detector find its
line, unless the code before it ends in half a marker. -/
theorem disablesFilter_of_clause {line before comment w r : Text} {m : Marker} {c : Char}
    (hline : line = before ++ (m.text ++ comment)) (hclause : comment.trim = w ++ c :: r)
    (hw : w.map Char.toLower = filterWord) (hc : isBlank c = true)
    (hend : before.trimRight.getLast? ≠ some m.char) : disablesFilter line = true := by
  obtain ⟨gap, e, hcomment, hgap⟩ := exists_blanks_append_trim comment
  have hends := bareEnds_trim comment
  rw [hclause] at hends hcomment
  have hcondition := hasCondition_append (hasCondition_of_bareEnds hends hc) e
  have hfound := disablesFilter_of_comment hgap hw hcondition hend
  rw [hline, hcomment]
  simpa using hfound

/-- A text of blanks has no last character that is not one. -/
theorem getLast?_trimRight_of_blank {s : Text} (h : ∀ c ∈ s, isBlank c = true) :
    s.trimRight.getLast? = none := by
  rw [trimRight_eq_rdropWhile, List.rdropWhile_eq_nil_iff.2 h]
  rfl

/-! ### Both -/

/-- **How the two scanners agree.**  If the detector finds a commented filter, then on some line
a filter word stands behind the first marker.  And if the extractor finds one, it does so behind
a marker of a line, and when its clause is the filter word with a blank behind it, and what
comes before the marker is blank or does not end in half of it, the detector finds one too. -/
theorem detector_and_extractor_agree (s : Text) :
    (hasCommentedFilter s = true →
      ∃ line ∈ s.lines, ∃ before m comment, FirstMarker line before m comment ∧
        ∃ u w v, comment = u ++ (w ++ v) ∧ w.map Char.toLower = filterWord) ∧
    ∀ found, commentedFilter? s = some found →
      ∃ line m comment, s.lines[found.line]? = some line ∧
        line = found.before ++ (Marker.text m ++ comment) ∧ found.clause = comment.trim ∧
        ((∃ w c r, found.clause = w ++ c :: r ∧ w.map Char.toLower = filterWord ∧
            isBlank c = true) →
          (∀ c ∈ found.before, isBlank c = true) ∨
            found.before.trimRight.getLast? ≠ some m.char →
          hasCommentedFilter s = true) := by
  constructor
  · intro h
    obtain ⟨line, hline, hdisables⟩ := List.any_eq_true.1 h
    exact ⟨line, hline, exists_firstMarker_of_disablesFilter hdisables⟩
  · intro found hfound
    obtain ⟨line, m, comment, hline, hcut, hclause, -⟩ := exists_of_commentedFilter? hfound
    have heq := eq_append_of_breakAt? hcut
    refine ⟨line, m, comment, hline, heq, hclause, ?_⟩
    intro hword hbefore
    obtain ⟨w, c, r, hparts, hw, hc⟩ := hword
    have hend : found.before.trimRight.getLast? ≠ some m.char := by
      rcases hbefore with hblank | hend
      · rw [getLast?_trimRight_of_blank hblank]
        simp
      · exact hend
    refine List.any_eq_true.2 ⟨line, List.mem_of_getElem? hline, ?_⟩
    exact disablesFilter_of_clause heq (hclause ▸ hparts) hw hc hend

-- Half a marker before the marker hides the filter from the detector alone.
example : (commentedFilter? "UPDATE t SET a = b- -- WHERE id = 1".toList).isSome = true ∧
    hasCommentedFilter "UPDATE t SET a = b- -- WHERE id = 1".toList = false := by
  decide +kernel

/-- The second marker of a line is the one that is tried first; the code before it ends in half
a marker of the other kind. -/
theorem detector_and_extractor_agree_behind_slash :
    commentedFilter? "DELETE FROM t // x\n/ -- wHere\tid = 1".toList =
        some { line := 1, before := "/ ".toList, clause := "wHere\tid = 1".toList } ∧
      hasCommentedFilter "DELETE FROM t // x\n/ -- wHere\tid = 1".toList = true ∧
      ∃ line ∈ lines "DELETE FROM t // x\n/ -- wHere\tid = 1".toList, ∃ before m comment,
        FirstMarker line before m comment := by
  have hfound : commentedFilter? "DELETE FROM t // x\n/ -- wHere\tid = 1".toList =
      some { line := 1, before := "/ ".toList, clause := "wHere\tid = 1".toList } := by
    decide +kernel
  obtain ⟨hdetector, hextractor⟩ :=
    detector_and_extractor_agree "DELETE FROM t // x\n/ -- wHere\tid = 1".toList
  obtain ⟨line, m, comment, hline, heq, -, hagree⟩ := hextractor _ hfound
  have hend : (trimRight "/ ".toList).getLast? ≠ some m.char := by
    have htext : some "/ -- wHere\tid = 1".toList = some line := hline ▸ by decide +kernel
    rw [← Option.some.inj htext] at heq
    cases m with
    | dashes => decide
    | slashes => simp [Marker.text, Marker.char] at heq
  have hdetected : hasCommentedFilter "DELETE FROM t // x\n/ -- wHere\tid = 1".toList = true :=
    hagree ⟨"wHere".toList, '\t', "id = 1".toList, by decide, by decide, by decide⟩ (Or.inr hend)
  obtain ⟨line, hmem, before, m, comment, hfirst, -⟩ := hdetector hdetected
  exact ⟨hfound, hdetected, line, hmem, before, m, comment, hfirst⟩

end SqlGuard
