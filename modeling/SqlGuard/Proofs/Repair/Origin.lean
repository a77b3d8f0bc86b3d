/-
Where the text of a repair comes from.

A repair divides the input, rewrites a line here and there, normalises what it rewrote, and
rejoins the statements.  All that these steps write of their own are blanks and semicolons.
Read without those (`ink`), each of them keeps the text as it is or drops something from it,
and none moves a character past another: the rewritten line is the code before the marker and
then the comment behind it, in that order.  So the ink of the repaired input is a subsequence
of the ink of the input.
-/
import Mathlib.Data.List.Flatten
import SqlGuard.Proofs.Repair.Input
import SqlGuard.Proofs.Repair.Live

namespace SqlGuard

open Text

/-! ### Ink -/

/-- What is left of a text without its blanks and semicolons. -/
def ink (s : Text) : Text :=
  s.filter fun c => !isBlank c && c != ';'

theorem ink_append (u v : Text) : ink (u ++ v) = ink u ++ ink v :=
  List.filter_append ..

theorem ink_sublist {u v : Text} (h : u.Sublist v) : (ink u).Sublist (ink v) :=
  h.filter _

/-- **The ink of a text depends on its words only.** -/
theorem ink_congr {s t : Text} (h : s.words = t.words) : ink s = ink t := by
  have hwords : ∀ s : Text, ink s = s.words.flatten.filter (· != ';') := by
    intro s
    rw [flatten_words, List.filter_filter]
    unfold ink
    congr 1
    funext c
    exact Bool.and_comm _ _
  rw [hwords, hwords, h]

@[simp]
theorem ink_trim (s : Text) : ink s.trim = ink s :=
  ink_congr (words_trim s)

/-- Joining adds no ink when the separator has none. -/
theorem ink_intercalate {sep : Text} (hsep : ink sep = []) (ls : List Text) :
    ink (sep.intercalate ls) = ls.flatMap ink := by
  induction ls with
  | nil => rfl
  | cons l ls ih =>
      by_cases hne : ls = []
      · simp [hne]
      · obtain ⟨l', ls', rfl⟩ := List.exists_cons_of_ne_nil hne
        rw [List.intercalate_cons_cons, ink_append, ink_append, hsep, ih, List.append_nil]
        rfl

theorem ink_unlines (ls : List Text) : ink (unlines ls) = ls.flatMap ink :=
  ink_intercalate (by decide) ls

/-! ### Statements -/

theorem ink_rejoin (ss : List Text) : ink (rejoin ss) = ss.flatMap ink := by
  unfold rejoin
  rw [ink_append, ink_intercalate (by decide)]
  exact List.append_nil _

/-- The ink of an input is in its statements. -/
theorem flatMap_ink_statements (t : Text) : (statements t).flatMap ink = ink t := by
  unfold statements
  rw [flatMap_filter_isEmpty (by rfl), List.flatMap_map]
  simp only [ink_trim]
  rw [← ink_intercalate (by decide : ink [';'] = []), List.intercalate_splitOn]

/-! ### The rewritten line -/

/-- The code of a line is what it starts with, up to blanks. -/
theorem ink_codePart_sublist (line : Text) : (ink (codePart line)).Sublist (ink line) := by
  rw [← ink_trim line]
  exact ink_sublist (cutMarkers_isPrefix line.trim).sublist

/-- The code before the marker comes before the clause, as it did on the old line. -/
theorem CommentedFilter.ink_activeLine {s line : Text} {found : CommentedFilter}
    (h : commentedFilter? s = some found) (hline : s.lines[found.line]? = some line) :
    (ink found.activeLine).Sublist (ink line) := by
  obtain ⟨line', m, comment, hline', hcut, hclause, -⟩ := exists_of_commentedFilter? h
  obtain rfl : line' = line := Option.some.inj (hline'.symm.trans hline)
  have hnew : ink found.activeLine = ink (codePart found.before) ++ ink comment := by
    unfold activeLine
    rw [hclause, ink_append, ← List.singleton_append, ink_append, ink_trim]
    rfl
  rw [hnew, eq_append_of_breakAt? hcut, ink_append, ink_append]
  exact (ink_codePart_sublist found.before).append (List.sublist_append_right _ _)

theorem ink_uncomment {s : Text} {found : CommentedFilter}
    (h : commentedFilter? s = some found) : (ink (uncomment s found)).Sublist (ink s) := by
  have hlt := found.line_lt_length h
  have hactive := found.ink_activeLine h (List.getElem?_eq_getElem hlt)
  have hold : ink s = (s.lines.take found.line).flatMap ink ++
      (ink s.lines[found.line] ++ (s.lines.drop (found.line + 1)).flatMap ink) := by
    rw [← List.flatMap_cons, ← List.drop_eq_getElem_cons hlt, ← List.flatMap_append,
      List.take_append_drop, ← ink_unlines, unlines_lines]
  show (ink (normalise (unlines (s.lines.set found.line found.activeLine)))).Sublist (ink s)
  rw [ink_congr (words_normalise _), ink_unlines, found.set_activeLine h, List.flatMap_append,
    List.flatMap_cons, hold]
  exact (List.Sublist.refl _).append (hactive.append (List.Sublist.refl _))

/-! ### The repaired input -/

theorem ink_mended (s : Text) : (ink (mended s)).Sublist (ink s) := by
  by_cases hsame : mended s = s
  · rw [hsame]
  · obtain ⟨found, hfound, -, -, htext, -⟩ := exists_of_mended_ne hsame
    rw [htext]
    exact ink_uncomment hfound

/-- **A repair never invents text.**  Up to blanks and semicolons, every character of the
repaired input is one of the input, and they come in the order in which they came there. -/
theorem ink_fixed_sublist (rules : Rules) (t : Text) :
    (ink (repair rules t).fixed).Sublist (ink t) := by
  rcases repair_cases rules t with ⟨heq, -⟩ | heq
  · rw [heq]
    exact List.Sublist.refl _
  · rw [heq]
    show (ink (rejoin ((statements t).map mended))).Sublist (ink t)
    rw [ink_rejoin, List.flatMap_map, ← flatMap_ink_statements t]
    exact List.Sublist.flatMap_right _ fun s _ => ink_mended s

end SqlGuard
