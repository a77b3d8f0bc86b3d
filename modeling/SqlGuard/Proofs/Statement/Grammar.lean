/-
What the detectors of filters accept.

Both detectors try every place of every line, and ask several things of what stands on its two
sides.  Read as grammars their answers have no places in them: a line is accepted when it can
be written in a certain shape, and the shape says all there is to say.

An active filter has one shape, `HoldsFilter`, and a line has to have it in its code.  A
commented one has two.  On a comment line any filter will do, and there even a semicolon opens
a condition.  Behind code the comment has to start with the filter word, and no condition is
asked for; but the last character of the code must not be half a marker, or the marker might
start one character earlier than it seems to.

The two shapes of a commented filter meet in `disablesFilter_of_comment`: a comment that starts
with a filter is found whatever stands before it, except for that half of a marker.
-/
import SqlGuard.Proofs.Statement.Filter

namespace SqlGuard

open Text

/-! ### A filter in a text -/

/-- Whether a text holds a filter: the filter word, no word character right before it, a gap,
and behind the gap a character that opens a condition. -/
def HoldsFilter (opens : Char → Prop) (s : Text) : Prop :=
  ∃ u w gap x v, s = u ++ (w ++ (gap ++ x :: v)) ∧ w.map Char.toLower = filterWord ∧
    (∀ c ∈ u.getLast?, isWord c = false) ∧ IsGap gap ∧ isBlank x = false ∧ opens x

theorem hasFilter_iff_holdsFilter {opens : Char → Bool} {s : Text} :
    s.hasCut (startsFilter opens) = true ↔ HoldsFilter (opens · = true) s := by
  rw [hasFilter_iff]
  constructor
  · intro h
    obtain ⟨u, w, r, rfl, hw, hbefore, hcondition⟩ := h
    obtain ⟨gap, x, v, rfl, hgap, hx, hopens⟩ := hasCondition_iff.1 hcondition
    exact ⟨u, w, gap, x, v, rfl, hw, (Option.any_eq_false _ _).1 hbefore, hgap, hx, hopens⟩
  · intro h
    obtain ⟨u, w, gap, x, v, rfl, hw, hbefore, hgap, hx, hopens⟩ := h
    exact ⟨u, w, gap ++ x :: v, rfl, hw, (Option.any_eq_false _ _).2 hbefore,
      hasCondition_iff.2 ⟨gap, x, v, rfl, hgap, hx, hopens⟩⟩

theorem mentionsFilter_iff_holdsFilter {code : Text} :
    mentionsFilter code = true ↔ HoldsFilter (· ≠ ';') code := by
  unfold mentionsFilter
  rw [hasFilter_iff_holdsFilter]
  simp only [bne_iff_ne]

/-- **A statement has an active filter exactly when the code of a line holds one**, with a
condition that a semicolon does not open. -/
theorem hasActiveFilter_iff_holdsFilter (s : Text) :
    hasActiveFilter s = true ↔ ∃ line ∈ s.lines, HoldsFilter (· ≠ ';') (codePart line) := by
  rw [hasActiveFilter_iff]
  refine exists_congr fun line => and_congr_right fun _ => ?_
  rw [← mentionsFilter_iff_holdsFilter, mentionsFilter_congr (words_codePart line)]

-- Only the third filter word is whole on its left and has a condition that may count.
example : hasActiveFilter "somewhere a = 1; wherE ;\n/* */ ×where\t\u2003x".toList = true := by
  decide +kernel

/-! ### A line that is all comment -/

/-- Whether a line starts with a marker and holds a filter. -/
def DisabledOnCommentLine (line : Text) : Prop :=
  (∃ m : Marker, m.text <+: line.trim) ∧
    ∃ u c w gap x v, line.trim = u ++ c :: (w ++ (gap ++ x :: v)) ∧ isWord c = false ∧
      w.map Char.toLower = filterWord ∧ IsGap gap ∧ isBlank x = false

/-- The filter word stands behind a marker that a text starts with: they share no character. -/
theorem marker_isPrefix_of_append {m : Marker} {u w r : Text} (hm : m.text <+: u ++ (w ++ r))
    (hw : w.map Char.toLower = filterWord) : m.text <+: u := by
  obtain ⟨d, w', rfl⟩ := List.exists_cons_of_ne_nil (ne_nil_of_filterWord hw)
  have hd : m.char ≠ d := by
    intro heq
    exact m.char_not_mem_filterWord hw (by rw [heq]; simp)
  cases u with
  | nil => exact absurd (List.cons_prefix_cons.1 hm).1 hd
  | cons a u =>
      obtain ⟨ha, hrest⟩ := List.cons_prefix_cons.1 hm
      cases u with
      | nil => exact absurd (List.cons_prefix_cons.1 hrest).1 hd
      | cons b u =>
          obtain ⟨hb, -⟩ := List.cons_prefix_cons.1 hrest
          exact ⟨u, by rw [Marker.text, ← ha, ← hb]; rfl⟩

theorem disabledOnCommentLine_iff {line : Text} :
    isCommentLine line = true ∧ line.trim.hasCut (startsFilter fun _ => true) = true ↔
      DisabledOnCommentLine line := by
  rw [isCommentLine_iff, hasFilter_iff_holdsFilter]
  refine and_congr_right fun hmark => ?_
  constructor
  · intro h
    obtain ⟨u, w, gap, x, v, heq, hw, hbefore, hgap, hx, -⟩ := h
    obtain ⟨m, hm⟩ := hmark
    rw [heq] at hm
    -- The line starts with its marker, so something stands before the word.
    rcases List.eq_nil_or_concat' u with rfl | ⟨u', c, rfl⟩
    · exact absurd (List.prefix_nil.1 (marker_isPrefix_of_append hm hw)) m.isMark_text.nonempty
    · exact ⟨u', c, w, gap, x, v, by rw [heq]; simp, hbefore c (by simp), hw, hgap, hx⟩
  · intro h
    obtain ⟨u, c, w, gap, x, v, heq, hc, hw, hgap, hx⟩ := h
    exact ⟨u ++ [c], w, gap, x, v, by rw [heq]; simp, hw, by simpa using hc, hgap, hx, rfl⟩

/-! ### A comment behind code -/

/-- Whether a line has a marker behind code, and the filter word right behind the marker.  The
code ends in the character `p`, which is no half of the marker. -/
def DisabledBehindCode (m : Marker) (line : Text) : Prop :=
  ∃ a p b gap w v, line = a ++ p :: (b ++ (m.text ++ (gap ++ (w ++ v)))) ∧
    isBlank p = false ∧ p ≠ m.char ∧ (∀ c ∈ b, isBlank c = true) ∧
    (∀ c ∈ gap, isBlank c = true) ∧ w.map Char.toLower = filterWord ∧
    ∀ c ∈ v.head?, isWord c = false

theorem disabledBehindCode_iff {m : Marker} {line : Text} :
    line.hasCut (startsDisabled m) = true ↔ DisabledBehindCode m line := by
  rw [hasCut_iff]
  constructor
  · intro h
    obtain ⟨u, after, rfl, hstarts⟩ := h
    obtain ⟨gap, w, v, rfl, hgap, hw, hbehind, hcode⟩ := startsDisabled_iff.1 hstarts
    obtain ⟨a, p, b, rfl, hp, hne, hb⟩ := any_head?_dropWhile_reverse_iff.1 hcode
    exact ⟨a, p, b, gap, w, v, by simp, hp, by simpa using hne, hb, hgap, hw,
      (Option.any_eq_false _ _).1 hbehind⟩
  · intro h
    obtain ⟨a, p, b, gap, w, v, rfl, hp, hne, hb, hgap, hw, hbehind⟩ := h
    refine ⟨a ++ p :: b, m.text ++ (gap ++ (w ++ v)), by simp, ?_⟩
    refine startsDisabled_iff.2
      ⟨gap, w, v, rfl, hgap, hw, (Option.any_eq_false _ _).2 hbehind, ?_⟩
    exact any_head?_dropWhile_reverse_iff.2 ⟨a, p, b, rfl, hp, by simpa using hne, hb⟩

/-! ### Commented filters -/

theorem disablesFilter_iff {line : Text} :
    disablesFilter line = true ↔
      DisabledOnCommentLine line ∨ ∃ m : Marker, DisabledBehindCode m line := by
  unfold disablesFilter
  rw [Bool.or_eq_true, Bool.and_eq_true, disabledOnCommentLine_iff, List.any_eq_true]
  simp only [disabledBehindCode_iff, Marker.mem_all, true_and]

/-- **A statement has a commented filter exactly when a line is a comment with a filter in it,
or has code and behind it a comment that starts with the filter word.** -/
theorem hasCommentedFilter_iff_disabled (s : Text) :
    hasCommentedFilter s = true ↔
      ∃ line ∈ s.lines, DisabledOnCommentLine line ∨ ∃ m : Marker, DisabledBehindCode m line := by
  unfold hasCommentedFilter
  simp only [List.any_eq_true, disablesFilter_iff]

/-! ### Comments that start with a filter -/

section Comment

variable {m : Marker} {code gap w r : Text}

/-- The filter word stands by itself behind a marker. -/
private theorem not_isWord_before (hgap : ∀ c ∈ gap, isBlank c = true) :
    (code ++ (m.text ++ gap)).getLast?.any isWord = false := by
  by_cases hnil : gap = []
  · have hmark : isWord m.char = false := by cases m <;> decide
    simpa [hnil, Marker.text] using hmark
  · rw [← List.append_assoc, List.getLast?_append_of_ne_nil _ hnil,
      List.getLast?_eq_getLast_of_ne_nil hnil]
    exact isWord_of_isBlank (hgap _ (List.getLast_mem hnil))

/-- With nothing before the marker the line is all comment. -/
private theorem disabledOnCommentLine_of_blank (hgap : ∀ c ∈ gap, isBlank c = true)
    (hw : w.map Char.toLower = filterWord) (hcondition : hasCondition (fun _ => true) r = true)
    (hcode : ∀ c ∈ code, isBlank c = true) :
    DisabledOnCommentLine (code ++ (m.text ++ (gap ++ (w ++ r)))) := by
  have hends : BareEnds m.text := by
    refine ⟨?_, ?_⟩ <;> intro c hc
    · exact m.isMark_text.solid c (List.mem_of_mem_head? hc)
    · exact m.isMark_text.solid c (List.mem_of_getLast? hc)
  refine disabledOnCommentLine_iff.1 ⟨isCommentLine_iff.2 ⟨m, ?_⟩, ?_⟩
  · rw [trim_blanks_append hcode, trim_append_of_bareEnds m.isMark_text.nonempty hends]
    exact List.prefix_append _ _
  · rw [hasFilter_congr (words_trim _), hasFilter_iff]
    exact ⟨code ++ (m.text ++ gap), w, r, by simp, hw, not_isWord_before hgap, hcondition⟩

/-- Behind code the comment has only to start with the filter word. -/
private theorem disabledBehindCode_of_content (hgap : ∀ c ∈ gap, isBlank c = true)
    (hw : w.map Char.toLower = filterWord) (hcondition : hasCondition (fun _ => true) r = true)
    (hcode : ¬ ∀ c ∈ code, isBlank c = true) (hend : code.trimRight.getLast? ≠ some m.char) :
    DisabledBehindCode m (code ++ (m.text ++ (gap ++ (w ++ r)))) := by
  have hlast : (code.reverse.dropWhile isBlank).head?.any (· != m.char) = true := by
    rw [trimRight, List.getLast?_reverse] at hend
    cases hhead : (code.reverse.dropWhile isBlank).head? with
    | none =>
        have hblank := List.dropWhile_eq_nil_iff.1 (List.head?_eq_none_iff.1 hhead)
        exact absurd (by simpa using hblank) hcode
    | some c =>
        rw [hhead] at hend
        simpa using hend
  obtain ⟨a, p, b, rfl, hp, hne, hb⟩ := any_head?_dropWhile_reverse_iff.1 hlast
  obtain ⟨d, e, x, rfl, hd, -, -⟩ := hasCondition_iff.1 hcondition
  refine ⟨a, p, b, gap, w, d ++ ([e] ++ x), by simp, hp, by simpa using hne, hb, hgap, hw, ?_⟩
  intro c hc
  rw [List.head?_append_of_ne_nil _ hd.1] at hc
  exact isWord_of_isBlank (hd.2 c (List.mem_of_mem_head? hc))

/-- **A comment that starts with a filter is found**, whatever stands before it, unless that
ends in half a marker. -/
theorem disablesFilter_of_comment (hgap : ∀ c ∈ gap, isBlank c = true)
    (hw : w.map Char.toLower = filterWord) (hcondition : hasCondition (fun _ => true) r = true)
    (hend : code.trimRight.getLast? ≠ some m.char) :
    disablesFilter (code ++ (m.text ++ (gap ++ (w ++ r)))) = true := by
  rw [disablesFilter_iff]
  by_cases hcode : ∀ c ∈ code, isBlank c = true
  · exact Or.inl (disabledOnCommentLine_of_blank hgap hw hcondition hcode)
  · exact Or.inr ⟨m, disabledBehindCode_of_content hgap hw hcondition hcode hend⟩

end Comment

/-! ### What there is to find -/

/-- **What disables a filter is a marker with the filter word somewhere behind it.** -/
theorem exists_marker_of_disablesFilter {line : Text} (h : disablesFilter line = true) :
    ∃ a m b w v, line = a ++ (Marker.text m ++ (b ++ (w ++ v))) ∧
      w.map Char.toLower = filterWord := by
  rcases disablesFilter_iff.1 h with hwhole | hbehind
  · obtain ⟨⟨m, hm⟩, u, c, w, gap, x, v, heq, -, hw, -⟩ := hwhole
    have hu : line.trim = (u ++ [c]) ++ (w ++ (gap ++ x :: v)) := by rw [heq]; simp
    rw [hu] at hm
    obtain ⟨b, hb⟩ := marker_isPrefix_of_append hm hw
    obtain ⟨a, e, hline, -⟩ := exists_blanks_append_trim line
    refine ⟨a, m, b, w, gap ++ x :: v ++ e, ?_, hw⟩
    rw [hline, hu, ← hb]
    simp
  · obtain ⟨m, a, p, b, gap, w, v, heq, -, -, -, -, hw, -⟩ := hbehind
    exact ⟨a ++ p :: b, m, gap, w, v, by rw [heq]; simp, hw⟩

/-- So a statement without markers disables none. -/
theorem not_hasCommentedFilter_of_unmarked {s : Text}
    (h : ∀ m : Marker, breakAt? m.text s = none) : hasCommentedFilter s = false := by
  rw [Bool.eq_false_iff]
  intro hcommented
  obtain ⟨line, hline, hdisables⟩ := List.any_eq_true.1 hcommented
  obtain ⟨a, m, b, w, v, heq, -⟩ := exists_marker_of_disablesFilter hdisables
  have hs := h m
  rw [← unlines_lines s, breakAt?_unlines_eq_none_iff m.isMark_text] at hs
  exact breakAt?_eq_none_iff.1 (hs line hline)
    ⟨a, b ++ (w ++ v), by rw [heq, List.append_assoc]⟩

end SqlGuard
