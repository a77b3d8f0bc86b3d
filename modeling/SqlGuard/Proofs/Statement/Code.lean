/-
The code of a line.

A line is trimmed and cut at the one marker, and what is left is cut at the other.  The second
cut does not see the whole line, since the first one takes away what stands behind it.  That
does no harm: an occurrence of the other marker that is gone stood further on, and none is cut
in half, for the two markers share no character.  So the line ends where its first marker
stands, of whichever kind, and it would end there if the cuts were made the other way round.

A line holds nothing but a comment when this place is the beginning of the trimmed line.  A
blank line has no code either, and is no comment; this is the one difference.
-/
import SqlGuard.Proofs.Statement.Comment

namespace SqlGuard

open Text

/-! ### The first marker -/

namespace FirstMarker

variable {line before comment : Text} {m : Marker} {c : Char}

theorem isPrefix (h : FirstMarker line [] m comment) : m.text <+: line := by
  rw [h.eq]
  exact List.prefix_append _ _

/-- No marker starts before the first one. -/
theorem isPrefixOf_eq_false (h : FirstMarker line (c :: before) m comment) (m' : Marker) :
    m'.text.isPrefixOf line = false := by
  rw [Bool.eq_false_iff]
  intro hstart
  obtain ⟨rest, hrest⟩ := List.isPrefixOf_iff_prefix.1 hstart
  have hle := h.first m' [] rest hrest.symm
  simp at hle

/-- The first marker of a line is the first one behind its first character, too. -/
theorem tail (h : FirstMarker line (c :: before) m comment) :
    FirstMarker (before ++ (m.text ++ comment)) before m comment := by
  refine ⟨rfl, ?_⟩
  intro m' p q hpq
  have hle := h.first m' (c :: p) q (by rw [h.eq, List.cons_append, hpq]; rfl)
  simpa using hle

/-- **Both cuts together are one cut, at the first marker.** -/
theorem cutMarkers_eq (h : FirstMarker line before m comment) :
    cutMarkers Marker.all line = before := by
  induction before generalizing line with
  | nil => exact cutMarkers_of_isPrefixOf (List.isPrefixOf_iff_prefix.2 h.isPrefix)
  | cons c before ih =>
      have hstart := h.isPrefixOf_eq_false
      rw [h.eq, List.cons_append] at hstart ⊢
      rw [cutMarkers_cons hstart, ih h.tail]

end FirstMarker

/-- A line is kept whole, or up to its first marker. -/
theorem cutMarkers_cases (line : Text) :
    ((∀ m : Marker, ¬ m.text <:+: line) ∧ cutMarkers Marker.all line = line) ∨
      ∃ m comment, FirstMarker line (cutMarkers Marker.all line) m comment := by
  by_cases h : ∃ m : Marker, m.text <:+: line
  · obtain ⟨m, hm⟩ := h
    obtain ⟨before, m', comment, hfirst⟩ := exists_firstMarker hm
    refine Or.inr ⟨m', comment, ?_⟩
    rw [hfirst.cutMarkers_eq]
    exact hfirst
  · have hnone : ∀ m : Marker, ¬ m.text <:+: line := fun m hm => h ⟨m, hm⟩
    exact Or.inl ⟨hnone, cutMarkers_of_code fun m => breakAt?_eq_none_iff.2 (hnone m)⟩

/-- It does not matter which marker is tried first. -/
theorem cutMarkers_reverse (line : Text) :
    cutMarkers Marker.all.reverse line = cutMarkers Marker.all line :=
  (cutMarkers_all_comm line).symm

/-! ### The trimmed line -/

/-- A comment line is a line that is not blank and has no code. -/
theorem isCommentLine_iff_codePart {line : Text} :
    isCommentLine line = true ↔ line.trim ≠ [] ∧ codePart line = [] := by
  constructor
  · intro hcomment
    refine ⟨?_, codePart_of_isCommentLine hcomment⟩
    intro hblank
    obtain ⟨m, hm⟩ := isCommentLine_iff.1 hcomment
    rw [hblank] at hm
    exact m.isMark_text.nonempty (List.prefix_nil.1 hm)
  · intro h
    obtain ⟨hne, hcode⟩ := h
    unfold codePart at hcode
    rcases cutMarkers_cases line.trim with ⟨-, hwhole⟩ | ⟨m, comment, hfirst⟩
    · exact absurd (hwhole.symm.trans hcode) hne
    · rw [hcode] at hfirst
      exact isCommentLine_iff.2 ⟨m, hfirst.isPrefix⟩

/-- **The code of a line ends at its first marker, whichever is tried first.**  It is the whole
trimmed line if there is no marker on it, and else what stands before the first one; no marker
is left in it; trying the markers in the other order makes no difference; and there is none of
it on a line that is not blank exactly when this is a comment line. -/
theorem codePart_earliest (line : Text) :
    (((∀ m : Marker, ¬ m.text <:+: line.trim) ∧ codePart line = line.trim) ∨
        ∃ m comment, FirstMarker line.trim (codePart line) m comment) ∧
      (∀ m : Marker, ¬ m.text <:+: codePart line) ∧
      cutMarkers Marker.all.reverse line.trim = codePart line ∧
      (isCommentLine line = true ↔ line.trim ≠ [] ∧ codePart line = []) := by
  refine ⟨cutMarkers_cases line.trim, ?_, cutMarkers_reverse line.trim, isCommentLine_iff_codePart⟩
  intro m
  exact breakAt?_eq_none_iff.1 (breakAt?_cutMarkers m line.trim)

-- The marker that is tried last is the one that stands first.
example : codePart " a /-//--- b".toList = "a /-".toList := by
  decide

end SqlGuard
