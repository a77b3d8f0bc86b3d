/-
A block comment in front of a statement.

Such a comment should leave the kind of the statement alone, and it does so as long as it
is closed when the block comments are looked for.  By then the line comments are gone, and
a marker inside the block comment was taken for one of them.  On an earlier line of the
comment this costs nothing but a piece of the comment.  On its last line the marker takes
the closing away, together with the first line of the statement.

So all depends on whether the body of the comment ends in a line comment:
`kind_blockComment` gives the kind of the whole in either case.  Without its closing the
comment runs on into the later lines of the statement, and unless one of those happens to
close it, the kind is the opening of the comment itself, which no rule asks a filter of.
-/
import SqlGuard.Proofs.Statement.Block
import SqlGuard.Proofs.Verdict.Meaning

namespace SqlGuard

open Text

/-- The block comment with a given body. -/
def blockComment (body : Text) : Text :=
  blockOpen ++ (body ++ blockClose)

/-- The star of the closing is what stands behind the body. -/
theorem blockComment_append (body s : Text) :
    blockComment body ++ ' ' :: s = blockOpen ++ (body ++ '*' :: '/' :: ' ' :: s) := by
  simp [blockComment, blockClose]

/-! ### A marker in the body -/

/-- A body that ends in a line comment loses its closing, and the line that follows it. -/
theorem dropLineComments_blockComment_of_comment {body : Text}
    (h : endsInLineComment body = true) (s : Text) :
    dropLineComments (blockComment body ++ ' ' :: s) =
      dropLineComments (blockOpen ++ (body ++ behindFirstLine s)) := by
  have hbehind : behindFirstLine ('/' :: ' ' :: s) = behindFirstLine s := by
    simp [behindFirstLine]
  have hbody :=
    dropLineComments_append_of_comment (by decide) Marker.star_not_mem_text h ('/' :: ' ' :: s)
  rw [hbehind, ← dropLineComments_append_of_break (head?_behindFirstLine s)] at hbody
  rw [blockComment_append, dropLineComments_blockOpen, hbody, dropLineComments_blockOpen]

/-! ### The kind -/

/-- **What a block comment does to the kind of what follows it.** -/
theorem kind_blockComment {body : Text} (hbody : ¬ blockClose <:+: body) (s : Text) :
    kind (blockComment body ++ ' ' :: s) =
      if endsInLineComment body then kind (blockOpen ++ (body ++ behindFirstLine s))
      else kind s := by
  cases h : endsInLineComment body with
  | true =>
      rw [if_pos rfl, kind_eq, kind_eq, dropComments, dropLineComments_blockComment_of_comment h]
      rfl
  | false =>
      have hblock := dropComments_block hbody h (by simp : (' ' :: s).head? ≠ some '/')
      have hspace := Marker.ne_char_of_isBlank (by decide : isBlank ' ' = true)
      rw [if_neg (by simp), kind_eq, kind_eq, blockComment, List.append_assoc, List.append_assoc,
        hblock, dropComments_cons hspace]
      exact leadingKeyword_congr (words_cons_blank (by decide) _)

/-- A comment that is never closed is a word, and no keyword that asks for a filter. -/
theorem needsFilter_of_unclosed {s : Text} (h : breakAt? blockClose s = none) :
    needsFilter (kind (blockOpen ++ s)) = false := by
  have hopen : breakAt? blockOpen (blockOpen ++ dropLineComments s) =
      some ([], dropLineComments s) :=
    breakAt?_append_pair (by decide) (breakAt?_nil isMark_blockOpen.nonempty) _
  have hclose := breakAt?_dropLineComments isMark_blockClose h
  have hkind : kind (blockOpen ++ s) = leadingKeyword (blockOpen ++ dropLineComments s) := by
    rw [kind_eq, dropComments, dropLineComments_blockOpen, dropBlockComments_eq, hopen]
    simp only [hclose]
  rw [hkind, Bool.eq_false_iff]
  intro hneeds
  have hslash : isBlank '/' = false := by decide
  rcases needsFilter_iff.1 hneeds with heq | heq
  · exact leadingKeyword_ne hslash (by decide) _ heq
  · exact leadingKeyword_ne hslash (by decide) _ heq

/-- **When a block comment leaves the kind of what follows it alone.**  It does if its body
ends in code.  If the body ends in a line comment, the closing is lost, and the kind is that
of the opened comment with the later lines in it.  If none of them closes it, the statement
is hidden from the rule about filters. -/
theorem kind_blockComment_iff {body : Text} (hbody : ¬ blockClose <:+: body) (s : Text) :
    (kind (blockComment body ++ ' ' :: s) = kind s ↔
        endsInLineComment body = false ∨
          kind (blockOpen ++ (body ++ behindFirstLine s)) = kind s) ∧
      (endsInLineComment body = true → ¬ blockClose <:+: behindFirstLine s →
        needsFilter (kind (blockComment body ++ ' ' :: s)) = false) := by
  rw [kind_blockComment hbody]
  cases h : endsInLineComment body with
  | false => simp
  | true =>
      refine ⟨by simp, ?_⟩
      intro _ hlater
      refine needsFilter_of_unclosed (breakAt?_append_of_break isMark_blockClose
        (head?_behindFirstLine s) ?_ ?_)
      · exact breakAt?_eq_none_iff.2 hbody
      · exact breakAt?_eq_none_iff.2 hlater

/-- A marker on an earlier line of the comment does no harm; one on its last line does. -/
theorem kind_blockComment_url :
    (¬ blockClose <:+: " see http://x\n old rows ".toList ∧
        kind (blockComment " see http://x\n old rows ".toList ++ ' ' :: "DELETE FROM t".toList) =
          kind "DELETE FROM t".toList) ∧
      ¬ blockClose <:+: " see http://x ".toList ∧
        needsFilter
          (kind (blockComment " see http://x ".toList ++ ' ' :: "DELETE FROM t".toList)) =
            false := by
  have htwo : ¬ blockClose <:+: " see http://x\n old rows ".toList := by decide +kernel
  have hcode : endsInLineComment " see http://x\n old rows ".toList = false := by decide +kernel
  have hone : ¬ blockClose <:+: " see http://x ".toList := by decide +kernel
  have hcomment : endsInLineComment " see http://x ".toList = true := by decide +kernel
  have hlater : ¬ blockClose <:+: behindFirstLine "DELETE FROM t".toList := by decide +kernel
  refine ⟨⟨htwo, (kind_blockComment_iff htwo _).1.2 (Or.inl hcode)⟩, hone, ?_⟩
  exact (kind_blockComment_iff hone _).2 hcomment hlater

/-- A URL on the only line of the comment: the DELETE behind it passes all checks. -/
theorem kind_lost_behind_url :
    ¬ blockClose <:+: " see http://x ".toList ∧
      kind "DELETE FROM t".toList = "DELETE" ∧
      kind (blockComment " see http://x ".toList ++ ' ' :: "DELETE FROM t".toList) = "/*" ∧
      (validate {} "DELETE FROM t".toList).isValid = false ∧
      (validate {} (blockComment " see http://x ".toList ++
        ' ' :: "DELETE FROM t".toList)).isValid = true := by
  decide +kernel

end SqlGuard
