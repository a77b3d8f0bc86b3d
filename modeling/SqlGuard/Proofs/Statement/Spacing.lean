/-
The scanners and spacing.

A scanner reads a statement line by line, and asks of a line what follows what: a marker, the
filter word, a character that opens a condition.  How much blank stands between them it does not
ask, only whether there is any, and at the ends of a line not even that.  So what it says of a
line depends on the words of the line only, and two lines with the same words are alike to it.

For the scanners of code this is known, since a cut at a marker and the search for a filter both
go by words.  Here it is shown of the ones that read comments: whether a line is a comment, by
its first word; whether the filter word stands behind a marker, by following the shape of the
line along a respacing; and whether the extractor takes a comment, by the first word of what
stands behind the marker.
-/
import SqlGuard.Proofs.Statement.Grammar

namespace SqlGuard

open Text

variable {s t : Text}

/-! ### Comment lines -/

theorem isCommentLine_congr (h : s.words = t.words) : isCommentLine s = isCommentLine t := by
  rw [Bool.eq_iff_iff, isCommentLine_iff, isCommentLine_iff]
  refine exists_congr fun m => ⟨?_, ?_⟩
  · exact isPrefix_trim_congr m.isMark_text.solid h
  · exact isPrefix_trim_congr m.isMark_text.solid h.symm

/-! ### A comment behind code -/

/-- The shape of a line with a disabled filter is kept by respacing, part by part. -/
theorem Text.Respaced.disabledBehindCode {m : Marker} (h : Respaced s t)
    (hs : DisabledBehindCode m s) : DisabledBehindCode m t := by
  obtain ⟨a, p, b, gap, w, v, rfl, hp, hne, hb, hgap, hw, hbehind⟩ := hs
  obtain ⟨a', r, rfl, -, hr⟩ := h.exists_of_append (w := [p]) (by simp) (by simpa using hp)
  obtain ⟨b', r, rfl, hbb, hr⟩ := hr.exists_of_append m.isMark_text.nonempty m.isMark_text.solid
  obtain ⟨gap', v', rfl, hgg, hvv⟩ :=
    hr.exists_of_append (ne_nil_of_filterWord hw) (solid_of_filterWord hw)
  refine ⟨a', p, b', gap', w, v', rfl, hp, hne, hbb.forall_isBlank hb, hgg.forall_isBlank hgap,
    hw, ?_⟩
  have hnot := (Option.any_eq_false _ _).2 hbehind
  rw [hvv.any_isWord_head?] at hnot
  exact (Option.any_eq_false _ _).1 hnot

/-- A space at either end of a line disables no filter. -/
theorem disabledBehindCode_ends {m : Marker} (s : Text) :
    DisabledBehindCode m (' ' :: (s ++ [' '])) ↔ DisabledBehindCode m s := by
  have hspace : isBlank ' ' = true := by decide
  constructor
  · intro h
    obtain ⟨a, p, b, gap, w, v, heq, hp, hne, hb, hgap, hw, hbehind⟩ := h
    -- The code before the marker does not end in the first space, nor the word in the last one.
    cases a with
    | nil =>
        obtain ⟨rfl, -⟩ := List.cons.inj heq
        rw [hspace] at hp
        simp at hp
    | cons c a =>
        obtain ⟨-, heq⟩ := List.cons.inj heq
        rcases List.eq_nil_or_concat' v with rfl | ⟨v, d, rfl⟩
        · obtain ⟨w', e, rfl⟩ := (List.eq_nil_or_concat' w).resolve_left (ne_nil_of_filterWord hw)
          have hlast : s ++ [' '] = (a ++ p :: (b ++ (m.text ++ (gap ++ w')))) ++ [e] := by
            simpa using heq
          obtain rfl : ' ' = e := by simpa using (List.append_inj' hlast rfl).2
          exact absurd (solid_of_filterWord hw ' ' (by simp)) (by decide)
        · have hlast : s ++ [' '] = (a ++ p :: (b ++ (m.text ++ (gap ++ (w ++ v))))) ++ [d] := by
            simpa using heq
          refine ⟨a, p, b, gap, w, v, (List.append_inj' hlast rfl).1, hp, hne, hb, hgap, hw, ?_⟩
          intro c hc
          obtain ⟨rest, rfl⟩ := List.head?_eq_some_iff.1 hc
          exact hbehind c (by simp)
  · intro h
    obtain ⟨a, p, b, gap, w, v, rfl, hp, hne, hb, hgap, hw, hbehind⟩ := h
    refine ⟨' ' :: a, p, b, gap, w, v ++ [' '], by simp, hp, hne, hb, hgap, hw, ?_⟩
    intro c hc
    cases v with
    | nil =>
        obtain rfl : ' ' = c := by simpa using hc
        exact isWord_of_isBlank hspace
    | cons d v => exact hbehind c (by simpa using hc)

theorem disabledBehindCode_congr {m : Marker} (h : s.words = t.words) :
    DisabledBehindCode m s ↔ DisabledBehindCode m t := by
  refine iff_of_eq (eq_of_words_eq ?_ (fun s => propext (disabledBehindCode_ends s)) h)
  intro s t hst
  exact propext ⟨hst.disabledBehindCode, hst.symm.disabledBehindCode⟩

/-- **Whether a line disables a filter depends on its words only.** -/
theorem disablesFilter_congr (h : s.words = t.words) : disablesFilter s = disablesFilter t := by
  have hbehind : ∀ m : Marker, s.hasCut (startsDisabled m) = t.hasCut (startsDisabled m) := by
    intro m
    rw [Bool.eq_iff_iff, disabledBehindCode_iff, disabledBehindCode_iff]
    exact disabledBehindCode_congr h
  have hwhole : s.trim.hasCut (startsFilter fun _ => true) =
      t.trim.hasCut (startsFilter fun _ => true) :=
    hasFilter_congr (by rw [words_trim, words_trim, h])
  unfold disablesFilter
  rw [isCommentLine_congr h, hwhole]
  simp only [hbehind]

/-! ### The filter that is found -/

/-- A comment is taken for a filter by its first word. -/
theorem filterWord_trim_congr (h : s.words = t.words)
    (hs : "WHERE".toList.isPrefixOf s.trim.upper = true) :
    "WHERE".toList.isPrefixOf t.trim.upper = true := by
  obtain ⟨w, r, heq, hw⟩ := startsWith_filterWord_iff.1 hs
  obtain ⟨r', hr'⟩ := isPrefix_trim_congr (solid_of_filterWord hw) h ⟨r, heq.symm⟩
  exact startsWith_filterWord_iff.2 ⟨w, r', hr'.symm, hw⟩

theorem isSome_filterClause? {m : Marker} {line : Text} :
    (m.filterClause? line).isSome =
      (breakAt? m.text line).any fun cut => "WHERE".toList.isPrefixOf cut.2.trim.upper := by
  unfold Marker.filterClause?
  cases breakAt? m.text line with
  | none => rfl
  | some cut =>
      dsimp only [Option.any_some]
      cases "WHERE".toList.isPrefixOf cut.2.trim.upper <;> rfl

/-- **Whether the extractor takes the comment of a line depends on the words of the line only.** -/
theorem isSome_filterClause?_congr (m : Marker) (h : s.words = t.words) :
    (m.filterClause? s).isSome = (m.filterClause? t).isSome := by
  have hword : ∀ {u v : Text}, u.words = v.words →
      "WHERE".toList.isPrefixOf u.trim.upper = "WHERE".toList.isPrefixOf v.trim.upper := by
    intro u v huv
    rw [Bool.eq_iff_iff]
    exact ⟨filterWord_trim_congr huv, filterWord_trim_congr huv.symm⟩
  refine eq_of_words_eq (f := fun s => (m.filterClause? s).isSome) ?_ ?_ h
  · intro s t hst
    rw [isSome_filterClause?, isSome_filterClause?]
    rcases hst.breakAt?_cases m.isMark_text with ⟨hs, ht⟩ | ⟨x, y, hs, ht, -, hafter⟩
    · rw [hs, ht]
    · rw [hs, ht]
      exact hword hafter.words_eq
  · intro s
    have hspace : ' ' ∉ m.text := m.isMark_text.not_mem (by decide)
    rw [isSome_filterClause?, isSome_filterClause?,
      breakAt?_cons_of_not_mem m.isMark_text.nonempty hspace,
      breakAt?_append m.isMark_text.nonempty hspace, breakAt?_nil m.isMark_text.nonempty]
    cases breakAt? m.text s with
    | none => rfl
    | some cut => exact hword (words_append_single (by decide) _)

/-- A filter is found when the comment of some line is taken. -/
theorem isSome_commentedFilter? (s : Text) :
    (commentedFilter? s).isSome =
      s.lines.any fun line => Marker.all.any fun m => (m.filterClause? line).isSome := by
  unfold commentedFilter?
  rw [List.isSome_findSome?]
  conv_rhs => rw [← List.zipIdx_map_fst 0 s.lines, List.any_map]
  simp only [Option.isSome_map, List.isSome_findSome?]
  rfl

end SqlGuard
