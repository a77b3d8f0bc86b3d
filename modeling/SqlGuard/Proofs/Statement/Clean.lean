/-
The normal form of clean text.

Cleaning takes line comments away, then block comments, and then writes the words that are left
one space apart.  Each pass brings together characters that were apart, and could in this way
make a marker that no pass looks for any more.  The order of the passes rules this out, but for
one marker.

A cut at a line comment brings nothing together, since a line feed stands behind it.  What is
brought together around a block comment stood next to its opening and its closing; a slash there
would have been half of a line comment marker, and no such marker is left by then.  So none of
the marks with a slash in it comes about, neither the doubled slash nor the two of a block
comment.  Two dashes can: each can stand on its own side of a block comment.

Spacing changes nothing of this, because a mark holds no blank.  A clean text may still lose
something to a second cleaning, but only where two dashes met in this way.
-/
import SqlGuard.Proofs.Statement.Block

namespace SqlGuard

open Text

/-! ### Spacing -/

/-- Whether the only blanks of a text are single spaces between its words. -/
structure SingleSpaced (s : Text) : Prop where
  bare : s.BareEnds
  space : ∀ c ∈ s, isBlank c = true → c = ' '
  single : ¬ [' ', ' '] <:+: s

section Joined

variable {ws : List Text}

private theorem bareEnds_of_solid (h : ∀ w ∈ ws, w ≠ [] ∧ ∀ c ∈ w, isBlank c = false) :
    BareEnds ([' '].intercalate ws) := by
  refine bareEnds_intercalate fun w hw => ⟨(h w hw).1, ?_, ?_⟩
  · exact fun c hc => (h w hw).2 c (List.mem_of_head? hc)
  · exact fun c hc => (h w hw).2 c (List.mem_of_getLast? hc)

end Joined

theorem singleSpaced_spaced (s : Text) : SingleSpaced s.spaced := by
  have hwords : ∀ w ∈ s.words, w ≠ [] ∧ ∀ c ∈ w, isBlank c = false := fun _ => solid_of_mem_words
  refine ⟨bareEnds_of_solid hwords, ?_, not_double_intercalate ?_⟩
  · intro c hc hblank
    rcases mem_intercalate hc with hspace | ⟨w, hw, hcw⟩
    · exact hspace
    · rw [(hwords w hw).2 c hcw] at hblank
      simp at hblank
  · intro w hw
    refine ⟨(hwords w hw).1, fun hmem => ?_⟩
    exact absurd ((hwords w hw).2 ' ' hmem) (by decide)

/-- Writing the words of a text one space apart makes no mark and breaks none. -/
theorem infix_spaced_iff {mark s : Text} (hmark : IsMark mark) :
    mark <:+: s.spaced ↔ mark <:+: s := by
  rw [← not_iff_not, ← breakAt?_eq_none_iff, ← breakAt?_eq_none_iff]
  exact breakAt?_eq_none_congr hmark (words_spaced s)

/-! ### Block comments that are left -/

theorem unblocked_iff {s : Text} :
    Unblocked s ↔ ∀ cut, breakAt? blockOpen s = some cut → breakAt? blockClose cut.2 = none := by
  constructor
  · intro h cut hopen
    exact breakAt?_eq_none_iff.2 (h cut.1 cut.2 (eq_append_of_breakAt? hopen))
  · intro h
    cases hopen : breakAt? blockOpen s with
    | none => exact unblocked_of_unopened hopen
    | some cut => exact unblocked_of_unclosed hopen (h cut hopen)

private theorem Text.Respaced.unblocked {s t : Text} (h : Respaced s t) (hs : Unblocked s) :
    Unblocked t := by
  rw [unblocked_iff] at hs ⊢
  intro cut ht
  rcases h.breakAt?_cases isMark_blockOpen with ⟨-, hnone⟩ | ⟨x, y, hx, hy, -, hafter⟩
  · rw [hnone] at ht
    simp at ht
  · obtain rfl : y = cut := Option.some.inj (hy.symm.trans ht)
    rcases hafter.breakAt?_cases isMark_blockClose with ⟨-, hnone⟩ | ⟨x', y', hx', -⟩
    · exact hnone
    · rw [hs x hx] at hx'
      simp at hx'

/-- Whether a text has a block comment depends on its words only. -/
theorem unblocked_congr {s t : Text} (h : s.words = t.words) : Unblocked s ↔ Unblocked t := by
  refine iff_of_eq (eq_of_words_eq (f := Unblocked) ?_ ?_ h)
  · intro s t hst
    exact propext ⟨hst.unblocked, hst.symm.unblocked⟩
  · intro s
    have hspace : isBlank ' ' = true := by decide
    refine propext ?_
    rw [unblocked_iff, unblocked_iff,
      breakAt?_cons_of_not_mem isMark_blockOpen.nonempty (isMark_blockOpen.not_mem hspace),
      breakAt?_append isMark_blockOpen.nonempty (isMark_blockOpen.not_mem hspace),
      breakAt?_nil isMark_blockOpen.nonempty]
    cases breakAt? blockOpen s with
    | none => simp
    | some cut =>
        simp only [Option.map_some, Option.some.injEq, forall_eq',
          breakAt?_append isMark_blockClose.nonempty (isMark_blockClose.not_mem hspace),
          breakAt?_nil isMark_blockClose.nonempty]
        cases breakAt? blockClose cut.2 <;> simp

/-- A text without a block comment can follow one without an opening, if no opening is made
between the two. -/
theorem Unblocked.append {u v : Text} (hu : breakAt? blockOpen u = none)
    (hlast : u.getLast? ≠ some '/') (hv : Unblocked v) : Unblocked (u ++ v) := by
  intro p q heq
  rcases List.append_eq_append_iff.1 heq with ⟨a, -, hva⟩ | ⟨a, hua, hva⟩
  · exact hv a q hva
  · cases a with
    | nil => exact hv [] q hva.symm
    | cons c a =>
        -- The opening would start at `c`, in the first text.
        obtain ⟨rfl, hrest⟩ := List.cons.inj hva
        cases a with
        | nil => exact absurd (by rw [hua]; simp) hlast
        | cons d a =>
            obtain ⟨rfl, -⟩ := List.cons.inj hrest
            exact absurd ⟨p, a, by rw [hua]; simp [blockOpen]⟩ (breakAt?_eq_none_iff.1 hu)

/-! ### Neighbours -/

/-- **Characters that become neighbours where a block comment was** had the comment between
them: the first one stood before its opening. -/
theorem pair_infix_dropBlockComments {a b : Char} {s : Text} (h : [a, b] <:+: dropBlockComments s) :
    [a, b] <:+: s ∨ [a, '/', '*'] <:+: s := by
  induction s using openBlock?.induct with
  | case1 s hopen => exact Or.inl ((unblocked_of_unopened hopen).dropBlockComments_eq ▸ h)
  | case2 s before opened hopen hclose =>
      exact Or.inl ((unblocked_of_unclosed hopen hclose).dropBlockComments_eq ▸ h)
  | case3 s before opened hopen inside rest hclose ih =>
      have hs := eq_append_of_block hopen hclose
      have hrest : rest <:+: s :=
        ⟨before ++ (blockOpen ++ (inside ++ blockClose)), [], by simp [hs]⟩
      rw [dropBlockComments_of_block hopen hclose] at h
      rcases pair_infix_append h with hfront | hback | ⟨⟨p, hp⟩, -⟩
      · left
        rw [hs]
        exact hfront.trans (List.prefix_append before _).isInfix
      · exact (ih hback).imp (·.trans hrest) (·.trans hrest)
      · right
        rw [hs, ← hp]
        exact ⟨p, inside ++ (blockClose ++ rest), by simp [blockOpen]⟩

/-- Where there is no doubled slash, leaving out the block comments makes no new one. -/
theorem unblocked_dropBlockComments {s : Text} (h : ¬ Marker.slashes.text <:+: s) :
    Unblocked (dropBlockComments s) := by
  induction s using openBlock?.induct with
  | case1 s hopen =>
      have hs := unblocked_of_unopened hopen
      rwa [hs.dropBlockComments_eq]
  | case2 s before opened hopen hclose =>
      have hs := unblocked_of_unclosed hopen hclose
      rwa [hs.dropBlockComments_eq]
  | case3 s before opened hopen inside rest hclose ih =>
      have hs := eq_append_of_block hopen hclose
      rw [dropBlockComments_of_block hopen hclose]
      refine Unblocked.append (breakAt?_before isMark_blockOpen.nonempty hopen) ?_ (ih ?_)
      · -- A slash at the end, and that of the opening, are a doubled one.
        intro hlast
        obtain ⟨p, hp⟩ := List.singleton_suffix_iff_getLast?_eq_some.2 hlast
        refine h ⟨p, '*' :: (inside ++ (blockClose ++ rest)), ?_⟩
        rw [hs, ← hp]
        simp [Marker.text, Marker.char, blockOpen]
      · intro hrest
        exact h (hrest.trans ⟨before ++ (blockOpen ++ (inside ++ blockClose)), [], by simp [hs]⟩)

/-! ### Clean text -/

/-- **What clean text looks like.**  Its words stand one space apart.  It holds no doubled slash
and no block comment.  And it holds two dashes only if a dash stood before a block comment. -/
theorem clean_normal_form (s : Text) :
    SingleSpaced (clean s) ∧ ¬ Marker.slashes.text <:+: clean s ∧ Unblocked (clean s) ∧
      (Marker.dashes.text <:+: clean s → "-/*".toList <:+: s) := by
  have hslashes := not_marker_infix_dropLineComments .slashes s
  unfold clean
  refine ⟨singleSpaced_spaced _, ?_, ?_, ?_⟩
  · rw [infix_spaced_iff Marker.slashes.isMark_text]
    intro h
    rcases pair_infix_dropBlockComments h with hpair | hopen
    · exact hslashes hpair
    · exact hslashes (List.IsInfix.trans ⟨[], ['*'], rfl⟩ hopen)
  · exact (unblocked_congr (words_spaced _)).2 (unblocked_dropBlockComments hslashes)
  · rw [infix_spaced_iff Marker.dashes.isMark_text]
    intro h
    rcases pair_infix_dropBlockComments h with hpair | hopen
    · exact absurd hpair (not_marker_infix_dropLineComments .dashes s)
    · refine infix_of_infix_dropLineComments ⟨by simp, ?_⟩ hopen
      have hall : ['-', '/', '*'].all (!isBlank ·) = true := by decide
      simpa using hall

-- The dashes of a first cleaning are a comment to a second one.
example : clean "a -/* */- b".toList = "a -- b".toList ∧
    clean (clean "a -/* */- b".toList) = "a".toList := by
  decide +kernel

end SqlGuard
