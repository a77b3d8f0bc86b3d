/-
The filter word and its condition.

`hasFilter_iff` spells out what the search for a filter comes to: the word, no word
character before it, a gap, and a character behind the gap that may open a condition.
Read in this way a filter does not mind how wide its gaps are, so whether a text mentions
one depends on its words only (`mentionsFilter_congr`).  That joins the two scanners that
disagree about everything else: the one that looks at trimmed lines, and the one that
looks at a whole statement with single spaces.

An active filter is one that some line mentions when its line comments are dropped, and
then the statement without its line comments mentions it.
-/
import SqlGuard.Proofs.Statement.Comment
import SqlGuard.Proofs.Text.Upper

namespace SqlGuard

open Text

/-! ### Characters -/

/-- A blank is no part of a word. -/
theorem isWord_of_isBlank {c : Char} (h : isBlank c = true) : isWord c = false :=
  of_isBlank (p := fun c => isWord c = false) (by decide +kernel) h

theorem toLower_of_isBlank {c : Char} (h : isBlank c = true) : c.toLower = c :=
  of_isBlank (p := fun c => c.toLower = c) (by decide +kernel) h

/-- The letters of the filter word are not blank, in whatever case they are written. -/
theorem solid_of_filterWord {w : Text} (hw : w.map Char.toLower = filterWord) :
    ∀ c ∈ w, isBlank c = false := by
  intro c hc
  rw [Bool.eq_false_iff]
  intro hblank
  have hmem : c ∈ filterWord := by
    rw [← hw, List.mem_map]
    exact ⟨c, hc, toLower_of_isBlank hblank⟩
  have hsolid : filterWord.all (!isBlank ·) = true := by decide
  have hletter := List.all_eq_true.1 hsolid c hmem
  simp [hblank] at hletter

theorem ne_nil_of_filterWord {w : Text} (hw : w.map Char.toLower = filterWord) : w ≠ [] := by
  rintro rfl
  exact absurd hw (by decide)

/-- **The word is read off the upper case of a text**, as the extractor does, exactly when the
text starts with it in some case, as the detectors ask. -/
theorem startsWith_filterWord_iff {s : Text} :
    "WHERE".toList.isPrefixOf s.upper = true ↔
      ∃ w r, s = w ++ r ∧ w.map Char.toLower = filterWord := by
  rw [List.isPrefixOf_iff_prefix, prefix_upper_iff (by simp)]
  rfl

/-! ### What is searched for -/

theorem afterFilterWord?_eq_some_iff {s r : Text} :
    afterFilterWord? s = some r ↔ ∃ w, s = w ++ r ∧ w.map Char.toLower = filterWord := by
  unfold afterFilterWord?
  by_cases h : ((s.take filterWord.length).map Char.toLower == filterWord) = true
  · rw [if_pos h, Option.some.injEq]
    constructor
    · rintro rfl
      exact ⟨s.take filterWord.length, (List.take_append_drop ..).symm, by simpa using h⟩
    · rintro ⟨w, rfl, hw⟩
      have hlen : filterWord.length = w.length := by rw [← hw, List.length_map]
      rw [hlen, List.drop_left]
  · rw [if_neg h]
    refine iff_of_false (by simp) ?_
    rintro ⟨w, rfl, hw⟩
    have hlen : filterWord.length = w.length := by rw [← hw, List.length_map]
    rw [hlen, List.take_left, hw] at h
    simp at h

/-- A condition is a gap and a character that opens it. -/
theorem hasCondition_iff {opens : Char → Bool} {r : Text} :
    hasCondition opens r = true ↔
      ∃ b d x, r = b ++ ([d] ++ x) ∧ IsGap b ∧ isBlank d = false ∧ opens d = true := by
  unfold hasCondition
  rw [Bool.and_eq_true, any_head?_dropWhile_iff]
  constructor
  · intro h
    obtain ⟨hgap, b, d, x, rfl, hb, hd, hopens⟩ := h
    refine ⟨b, d, x, rfl, ⟨?_, hb⟩, hd, hopens⟩
    rintro rfl
    rw [List.nil_append, List.head?_cons, Option.any_some, hd] at hgap
    simp at hgap
  · intro h
    obtain ⟨b, d, x, rfl, hb, hd, hopens⟩ := h
    obtain ⟨c, b', rfl⟩ := List.exists_cons_of_ne_nil hb.1
    exact ⟨by simpa using hb.2 c (by simp), c :: b', d, x, rfl, hb.2, hd, hopens⟩

/-- Anything behind a blank is a condition, if nothing is asked of what opens it. -/
theorem hasCondition_of_content {c d : Char} {r : Text} (hc : isBlank c = true) (hd : d ∈ r)
    (hsolid : isBlank d = false) : hasCondition (fun _ => true) (c :: r) = true := by
  have hrest : r.dropWhile isBlank ≠ [] := by
    intro hnil
    rw [List.dropWhile_eq_nil_iff.1 hnil d hd] at hsolid
    simp at hsolid
  obtain ⟨e, rest, hcons⟩ := List.exists_cons_of_ne_nil hrest
  unfold hasCondition
  simp [hc, hcons]

/-- Only the characters of the text are asked whether they open a condition. -/
theorem hasCondition_congr {opens opens' : Char → Bool} {r : Text}
    (h : ∀ c ∈ r, opens c = opens' c) : hasCondition opens r = hasCondition opens' r := by
  unfold hasCondition
  cases hrest : r.dropWhile isBlank with
  | nil => rfl
  | cons d x =>
      have hd : d ∈ r := (List.dropWhile_suffix isBlank).subset (by rw [hrest]; simp)
      rw [List.head?_cons, Option.any_some, Option.any_some, h d hd]

/-- What starts a filter: the word, no word character before it, and a condition. -/
theorem startsFilter_iff {opens : Char → Bool} {before after : Text} :
    startsFilter opens before after = true ↔
      ∃ w r, after = w ++ r ∧ w.map Char.toLower = filterWord ∧
        before.head?.any isWord = false ∧ hasCondition opens r = true := by
  unfold startsFilter
  constructor
  · intro hstarts
    cases hafter : afterFilterWord? after with
    | none => rw [hafter] at hstarts; simp at hstarts
    | some r =>
        obtain ⟨w, heq, hw⟩ := afterFilterWord?_eq_some_iff.1 hafter
        rw [hafter] at hstarts
        simp only [Bool.and_eq_true, Bool.not_eq_true'] at hstarts
        exact ⟨w, r, heq, hw, hstarts.1, hstarts.2⟩
  · rintro ⟨w, r, heq, hw, hbefore, hcondition⟩
    rw [afterFilterWord?_eq_some_iff.2 ⟨w, heq, hw⟩]
    simp [hbefore, hcondition]

/-- What disables a filter: the marker, the filter word behind it, and code before it that does
not end in half a marker. -/
theorem startsDisabled_iff {m : Marker} {before after : Text} :
    startsDisabled m before after = true ↔
      ∃ gap w r, after = m.text ++ (gap ++ (w ++ r)) ∧ (∀ c ∈ gap, isBlank c = true) ∧
        w.map Char.toLower = filterWord ∧ r.head?.any isWord = false ∧
        (before.dropWhile isBlank).head?.any (· != m.char) = true := by
  unfold startsDisabled
  rw [Bool.and_eq_true, Bool.and_eq_true]
  constructor
  · intro h
    obtain ⟨⟨hmark, hcode⟩, hword⟩ := h
    obtain ⟨comment, rfl⟩ := List.isPrefixOf_iff_prefix.1 hmark
    rw [List.drop_left] at hword
    cases hafter : afterFilterWord? (comment.dropWhile isBlank) with
    | none => rw [hafter] at hword; simp at hword
    | some r =>
        obtain ⟨w, heq, hw⟩ := afterFilterWord?_eq_some_iff.1 hafter
        rw [hafter] at hword
        refine ⟨comment.takeWhile isBlank, w, r, ?_, fun c => List.mem_takeWhile_imp, hw,
          by simpa using hword, hcode⟩
        rw [← heq, List.takeWhile_append_dropWhile]
  · intro h
    obtain ⟨gap, w, r, rfl, hgap, hw, hbehind, hcode⟩ := h
    have hdrop : (gap ++ (w ++ r)).dropWhile isBlank = w ++ r := by
      obtain ⟨c, w, rfl⟩ := List.exists_cons_of_ne_nil (ne_nil_of_filterWord hw)
      rw [List.dropWhile_append_of_pos hgap]
      simp [solid_of_filterWord hw c (by simp)]
    refine ⟨⟨List.isPrefixOf_iff_prefix.2 (List.prefix_append _ _), hcode⟩, ?_⟩
    rw [List.drop_left, hdrop, afterFilterWord?_eq_some_iff.2 ⟨w, rfl, hw⟩]
    simp [hbehind]

/-- **What a filter is**: a place of the text where one starts. -/
theorem hasFilter_iff {opens : Char → Bool} {s : Text} :
    s.hasCut (startsFilter opens) = true ↔
      ∃ u w r, s = u ++ (w ++ r) ∧ w.map Char.toLower = filterWord ∧
        u.getLast?.any isWord = false ∧ hasCondition opens r = true := by
  rw [hasCut_iff]
  constructor
  · rintro ⟨u, v, rfl, hstarts⟩
    obtain ⟨w, r, rfl, hw, hbefore, hcondition⟩ := startsFilter_iff.1 hstarts
    rw [List.head?_reverse] at hbefore
    exact ⟨u, w, r, rfl, hw, hbefore, hcondition⟩
  · rintro ⟨u, w, r, rfl, hw, hbefore, hcondition⟩
    refine ⟨u, w ++ r, rfl, startsFilter_iff.2 ⟨w, r, rfl, hw, ?_, hcondition⟩⟩
    rw [List.head?_reverse]
    exact hbefore

/-! ### Spacing -/

/-- Whether a word character stands first does not depend on spacing. -/
theorem Text.Respaced.any_isWord_head? {s t : Text} (h : Respaced s t) :
    s.head?.any isWord = t.head?.any isWord := by
  cases h with
  | nil => rfl
  | char c _ => rfl
  | gap hb hb' _ =>
      obtain ⟨c, b, rfl⟩ := List.exists_cons_of_ne_nil hb.1
      obtain ⟨c', b', rfl⟩ := List.exists_cons_of_ne_nil hb'.1
      simp [isWord_of_isBlank (hb.2 c (by simp)), isWord_of_isBlank (hb'.2 c' (by simp))]

/-- Nor does whether one stands last. -/
theorem Text.Respaced.any_isWord_getLast? {s t : Text} (h : Respaced s t) :
    s.getLast?.any isWord = t.getLast?.any isWord := by
  rw [← List.head?_reverse, ← List.head?_reverse]
  exact h.reverse.any_isWord_head?

theorem Text.Respaced.hasCondition {opens : Char → Bool} {r r' : Text} (h : Respaced r r')
    (hr : hasCondition opens r = true) : SqlGuard.hasCondition opens r' = true := by
  obtain ⟨b, d, x, rfl, hb, hd, hopens⟩ := hasCondition_iff.1 hr
  obtain ⟨b', x', rfl, hbb, -⟩ := h.exists_of_append (by simp) (by simpa using hd)
  exact hasCondition_iff.2 ⟨b', d, x', rfl, hbb.isGap hb, hd, hopens⟩

theorem Text.Respaced.hasFilter {opens : Char → Bool} {s t : Text} (h : Respaced s t)
    (hs : s.hasCut (startsFilter opens) = true) : t.hasCut (startsFilter opens) = true := by
  obtain ⟨u, w, r, rfl, hw, hbefore, hcondition⟩ := hasFilter_iff.1 hs
  obtain ⟨u', r', rfl, hu, hr⟩ :=
    h.exists_of_append (ne_nil_of_filterWord hw) (solid_of_filterWord hw)
  refine hasFilter_iff.2 ⟨u', w, r', rfl, hw, ?_, hr.hasCondition hcondition⟩
  rw [← hu.any_isWord_getLast?]
  exact hbefore

theorem hasCondition_append {opens : Char → Bool} {r : Text} (h : hasCondition opens r = true)
    (v : Text) : hasCondition opens (r ++ v) = true := by
  obtain ⟨b, d, x, rfl, hb, hd, hopens⟩ := hasCondition_iff.1 h
  exact hasCondition_iff.2 ⟨b, d, x ++ v, by simp, hb, hd, hopens⟩

/-- A filter stays one when more is written behind it. -/
theorem hasFilter_append {opens : Char → Bool} {s : Text}
    (h : s.hasCut (startsFilter opens) = true) (v : Text) :
    hasCut (startsFilter opens) (s ++ v) = true := by
  obtain ⟨u, w, r, rfl, hw, hbefore, hcondition⟩ := hasFilter_iff.1 h
  exact hasFilter_iff.2
    ⟨u, w, r ++ v, by simp, hw, hbefore, hasCondition_append hcondition v⟩

/-- And it stays one behind a blank, whatever stands before that. -/
theorem hasFilter_append_blank {opens : Char → Bool} {s : Text} {c : Char}
    (hc : isBlank c = true) (h : s.hasCut (startsFilter opens) = true) (u : Text) :
    hasCut (startsFilter opens) (u ++ c :: s) = true := by
  obtain ⟨u', w, r, rfl, hw, hbefore, hcondition⟩ := hasFilter_iff.1 h
  refine hasFilter_iff.2 ⟨u ++ c :: u', w, r, by simp, hw, ?_, hcondition⟩
  cases u' with
  | nil => simp [isWord_of_isBlank hc]
  | cons d u' =>
      rw [List.getLast?_append_of_ne_nil _ (by simp), List.getLast?_cons_cons]
      exact hbefore

/-- A blank at either end of a text makes no filter. -/
theorem hasFilter_ends {opens : Char → Bool} (s : Text) :
    hasCut (startsFilter opens) (' ' :: (s ++ [' '])) = hasCut (startsFilter opens) s := by
  rw [Bool.eq_iff_iff]
  constructor
  · intro h
    obtain ⟨u, w, r, heq, hw, hbefore, hcondition⟩ := hasFilter_iff.1 h
    obtain ⟨b, d, x, rfl, hb, hd, hopens⟩ := hasCondition_iff.1 hcondition
    obtain ⟨e, w', rfl⟩ := List.exists_cons_of_ne_nil (ne_nil_of_filterWord hw)
    -- Neither the word nor the condition can begin at one of the two spaces.
    cases u with
    | nil =>
        obtain ⟨rfl, -⟩ := List.cons.inj heq
        exact absurd (solid_of_filterWord hw ' ' (by simp)) (by decide)
    | cons f u =>
        obtain ⟨rfl, heq⟩ := List.cons.inj heq
        rcases List.eq_nil_or_concat x with rfl | ⟨x', y, rfl⟩
        · have hlast : s ++ [' '] = (u ++ (e :: w' ++ b)) ++ [d] := by simpa using heq
          obtain rfl : ' ' = d := by simpa using (List.append_inj' hlast rfl).2
          exact absurd hd (by decide)
        · have hlast : s ++ [' '] = (u ++ (e :: w' ++ (b ++ ([d] ++ x')))) ++ [y] := by
            simpa using heq
          rw [(List.append_inj' hlast rfl).1]
          refine hasFilter_iff.2 ⟨u, e :: w', b ++ ([d] ++ x'), rfl, hw, ?_,
            hasCondition_iff.2 ⟨b, d, x', rfl, hb, hd, hopens⟩⟩
          cases u with
          | nil => rfl
          | cons g u => rwa [List.getLast?_cons_cons] at hbefore
  · intro h
    have hback := hasFilter_append h [' ']
    simpa using hasFilter_append_blank (by decide : isBlank ' ' = true) hback []

/-- **Whether there is a filter in a text depends on its words only.** -/
theorem hasFilter_congr {opens : Char → Bool} {s t : Text} (h : s.words = t.words) :
    hasCut (startsFilter opens) s = hasCut (startsFilter opens) t := by
  refine eq_of_words_eq ?_ hasFilter_ends h
  intro s t hst
  rw [Bool.eq_iff_iff]
  exact ⟨hst.hasFilter, hst.symm.hasFilter⟩

theorem mentionsFilter_congr {s t : Text} (h : s.words = t.words) :
    mentionsFilter s = mentionsFilter t :=
  hasFilter_congr h

/-! ### Lines -/

theorem Marker.char_not_mem_filterWord {w : Text} (hw : w.map Char.toLower = filterWord)
    (m : Marker) : m.char ∉ w := by
  intro hc
  have hlower : m.char.toLower ∈ filterWord := by
    rw [← hw]
    exact List.mem_map.2 ⟨m.char, hc, rfl⟩
  cases m <;> exact absurd hlower (by decide)

/-- No marker starts in the filter word. -/
theorem cutMarkers_filterWord_append {w : Text} (hw : w.map Char.toLower = filterWord)
    (r : Text) : cutMarkers Marker.all (w ++ r) = w ++ cutMarkers Marker.all r := by
  have hletters : ∀ m : Marker, m.char ∉ w := fun m => m.char_not_mem_filterWord hw
  clear hw
  induction w with
  | nil => rfl
  | cons c w ih =>
      have hstart : ∀ m : Marker, m.text.isPrefixOf (c :: (w ++ r)) = false := by
        intro m
        refine isPrefixOf_cons_of_not_mem m.isMark_text.nonempty ?_ _
        intro hc
        obtain rfl : c = m.char := by simpa [Marker.text] using hc
        exact hletters m (by simp)
      rw [List.cons_append, cutMarkers_cons hstart,
        ih fun m hm => hletters m (List.mem_cons_of_mem _ hm)]
      rfl

theorem lines_dropLineComments (s : Text) :
    (dropLineComments s).lines = s.lines.map (cutMarkers Marker.all) := by
  refine lines_unlines (by simpa using lines_ne_nil s) ?_
  intro l hl hfeed
  obtain ⟨line, hline, rfl⟩ := List.mem_map.1 hl
  exact feed_not_mem_of_mem_lines hline ((cutMarkers_isPrefix line).subset hfeed)

/-- A filter on one of its lines is a filter of the text. -/
theorem mentionsFilter_of_mem_lines {s line : Text} (hline : line ∈ s.lines)
    (h : mentionsFilter line = true) : mentionsFilter s = true := by
  have hfeed : isBlank '\n' = true := by decide
  have main : ∀ ls : List Text, line ∈ ls → mentionsFilter (unlines ls) = true := by
    intro ls
    induction ls with
    | nil => intro hmem; simp at hmem
    | cons l ls ih =>
        intro hmem
        cases ls with
        | nil =>
            obtain rfl : line = l := by simpa using hmem
            simpa using h
        | cons l' ls =>
            rw [unlines_cons_cons]
            rcases List.mem_cons.1 hmem with rfl | hrest
            · exact hasFilter_append h _
            · exact hasFilter_append_blank hfeed (ih hrest) l
  rw [← unlines_lines s]
  exact main s.lines hline

/-- **An active filter is one on a line that was cut at its first marker.**  That comment lines
are skipped makes no difference: nothing is left of them. -/
theorem hasActiveFilter_iff {s : Text} :
    hasActiveFilter s = true ↔
      ∃ line ∈ s.lines, mentionsFilter (cutMarkers Marker.all line) = true := by
  have hline : ∀ line : Text, (!isCommentLine line && mentionsFilter (codePart line)) =
      mentionsFilter (cutMarkers Marker.all line) := by
    intro line
    rw [← mentionsFilter_congr (words_codePart line)]
    by_cases hcomment : isCommentLine line = true
    · rw [codePart_of_isCommentLine hcomment, hcomment]
      rfl
    · simp [hcomment]
  unfold hasActiveFilter
  simp only [List.any_eq_true, hline]

theorem exists_line_of_hasActiveFilter {s : Text} (h : hasActiveFilter s = true) :
    ∃ line ∈ (dropLineComments s).lines, mentionsFilter line = true := by
  obtain ⟨line, hline, hactive⟩ := hasActiveFilter_iff.1 h
  refine ⟨cutMarkers Marker.all line, ?_, hactive⟩
  rw [lines_dropLineComments]
  exact List.mem_map.2 ⟨line, hline, rfl⟩

end SqlGuard
