/-
What a repair does to the kind of a statement.

A repair turns the comment on one line into live text, wherever that line stands.  Read
without line comments, the statement is the text up to the marker and the text behind its
line, and the repair puts the clause between them.  The kind is the first word outside all
comments, so everything depends on how far the reading has come when it meets the clause.

If the text up to the marker has the kind already, nothing that follows can change it.  If
a block comment is open there, the clause is part of that comment, and only matters if it
closes it.  Otherwise the clause itself is the first word, and the statement is no UPDATE
or DELETE any more: `kind_uncomment_iff` is this distinction, made exact, and
`kind_validation_iff` is what it means for a report.
-/
import SqlGuard.Proofs.Repair.Input
import SqlGuard.Proofs.Repair.Live
import SqlGuard.Proofs.Statement.Block

namespace SqlGuard

open Text

/-! ### Where the clause lands -/

/-- A live clause with no word before it is the first word, and it is no keyword of a
statement that needs a filter. -/
private theorem leadingKeyword_liveClause {s : Text} {found : CommentedFilter}
    (h : commentedFilter? s = some found) (r : Text) :
    needsFilter (leadingKeyword (dropBlockComments (found.liveClause ++ r))) = false := by
  obtain ⟨c, w, hclause, hblank, hlower⟩ := found.exists_cons_liveClause h
  have hslash : c ≠ '/' := by
    intro hc
    rw [hc] at hlower
    exact absurd hlower (by decide)
  have hupper : (upperChar c).head? = some 'W' := by
    have hletter : c.toLower = 'W'.toLower := hlower
    obtain ⟨hascii, hcapital⟩ := (toLower_eq_iff (by simp)).1 hletter
    rw [upperChar, if_pos hascii, hcapital]
    rfl
  rw [hclause, List.cons_append, dropBlockComments_cons hslash, Bool.eq_false_iff]
  intro hneeds
  rcases needsFilter_iff.1 hneeds with heq | heq
  · exact leadingKeyword_ne hblank (by rw [hupper]; decide) _ heq
  · exact leadingKeyword_ne hblank (by rw [hupper]; decide) _ heq

/-- A clause behind closed comments leaves the keyword alone if there is one before it. -/
private theorem leadingKeyword_insert_of_closed {p w q : Text} (hopen : openBlock? p = none)
    (hclause : needsFilter (leadingKeyword (dropBlockComments (w ++ '\n' :: q))) = false)
    (hneeds : needsFilter (leadingKeyword (dropBlockComments (p ++ '\n' :: q))) = true) :
    leadingKeyword (dropBlockComments (p ++ ' ' :: (w ++ '\n' :: q))) =
        leadingKeyword (dropBlockComments (p ++ '\n' :: q)) ↔
      leadingKeyword (dropBlockComments p) =
        leadingKeyword (dropBlockComments (p ++ '\n' :: q)) := by
  have hspace : isBlank ' ' = true := by decide
  have hfeed : isBlank '\n' = true := by decide
  rw [dropBlockComments_append_of_closed hspace hopen]
  by_cases hwords : (dropBlockComments p).words = []
  · -- The clause comes first, and takes the place of the keyword.
    rw [leadingKeyword_append_of_nil hspace hwords]
    constructor
    · intro heq
      rw [← heq, hclause] at hneeds
      simp at hneeds
    · intro heq
      rw [← heq, leadingKeyword, hwords] at hneeds
      exact absurd hneeds (by decide)
  · rw [dropBlockComments_append_of_closed hfeed hopen, leadingKeyword_append hspace hwords,
      leadingKeyword_append hfeed hwords]

/-- A clause inside a block leaves the keyword alone if the keyword was over before the block,
or if the clause does not close the block, or if the keyword is found behind its closing. -/
private theorem leadingKeyword_insert_of_open {p w q live body : Text}
    (hopen : openBlock? p = some (live, body))
    (hneeds : needsFilter (leadingKeyword (dropBlockComments (p ++ '\n' :: q))) = true) :
    leadingKeyword (dropBlockComments (p ++ ' ' :: (w ++ '\n' :: q))) =
        leadingKeyword (dropBlockComments (p ++ '\n' :: q)) ↔
      leadingKeyword (dropBlockComments p) =
          leadingKeyword (dropBlockComments (p ++ '\n' :: q)) ∨
        ∀ cut, breakAt? blockClose w = some cut →
          leadingKeyword (live ++ dropBlockComments (cut.2 ++ '\n' :: q)) =
            leadingKeyword (dropBlockComments (p ++ '\n' :: q)) := by
  have hspace : isBlank ' ' = true := by decide
  have hfeed : isBlank '\n' = true := by decide
  have hclose : breakAt? blockClose (w ++ '\n' :: q) = _ :=
    breakAt?_append isMark_blockClose.nonempty (isMark_blockClose.not_mem hfeed) w q
  constructor
  · intro heq
    right
    intro cut hw
    rw [← heq, dropBlockComments_append_of_open hspace hopen, hclose, hw]
  · rintro (heq | hkept)
    · -- The keyword was over before the block opened, and both texts start with `live`.
      obtain ⟨z, hz⟩ : ∃ z, dropBlockComments (p ++ ' ' :: (w ++ '\n' :: q)) = live ++ z := by
        rw [dropBlockComments_append_of_open hspace hopen]
        cases breakAt? blockClose (w ++ '\n' :: q) with
        | none => exact ⟨_, List.append_assoc ..⟩
        | some cut => exact ⟨_, rfl⟩
      rw [dropBlockComments_of_open hopen] at heq
      rw [hz, ← heq]
      apply leadingKeyword_of_slash (y := '*' :: body)
      change '/' ∉ (leadingKeyword (live ++ (blockOpen ++ body))).toList
      rw [← heq] at hneeds
      rcases needsFilter_iff.1 hneeds with hkind | hkind <;> rw [hkind] <;> decide
    · cases hw : breakAt? blockClose w with
      | some cut =>
          rw [← hkept cut hw, dropBlockComments_append_of_open hspace hopen, hclose, hw]
      | none =>
          rw [dropBlockComments_append_of_open hspace hopen, hclose, hw,
            dropBlockComments_append_of_open hfeed hopen]
          cases breakAt? blockClose q with
          | some cut => rfl
          | none =>
              -- Nothing closes the block, so it is text, and has a word of its own.
              have hwords : (live ++ (blockOpen ++ body)).words ≠ [] :=
                words_ne_nil_of_mem (by decide : isBlank '/' = false) (by simp [blockOpen])
              exact (leadingKeyword_append hspace hwords _).trans
                (leadingKeyword_append hfeed hwords _).symm

/-- Whether a statement keeps its kind when a commented filter of it is put into effect.
Either the text before the marker settles the kind, or it leaves a block comment open.  In
that comment the clause has no effect on the kind, unless it closes it; then what stands
behind the closing has to give the kind. -/
def CommentedFilter.keepsKind (found : CommentedFilter) (s : Text) : Bool :=
  kind (found.textBefore s) == kind s ||
    (openBlock? (dropLineComments (found.textBefore s))).any fun block =>
      (breakAt? blockClose found.liveClause).all fun cut =>
        leadingKeyword (block.1 ++
          dropBlockComments (cut.2 ++ '\n' :: dropLineComments (found.textBehind s))) == kind s

/-- A statement whose filter is put into effect keeps its kind exactly when `keepsKind` says
so. -/
theorem kind_uncomment_iff {s : Text} {found : CommentedFilter}
    (h : commentedFilter? s = some found) (hneeds : needsFilter (kind s) = true) :
    kind (uncomment s found) = kind s ↔ found.keepsKind s = true := by
  have hclause := leadingKeyword_liveClause h ('\n' :: dropLineComments (found.textBehind s))
  unfold CommentedFilter.keepsKind
  rw [kind_congr (words_dropLineComments_uncomment h), kind_eq (found.textBefore s), dropComments]
  rw [kind_congr (found.words_dropLineComments_eq h)] at hneeds ⊢
  cases hopen : openBlock? (dropLineComments (found.textBefore s)) with
  | none =>
      rw [leadingKeyword_insert_of_closed hopen hclause hneeds]
      simp
  | some block =>
      rw [leadingKeyword_insert_of_open hopen hneeds]
      simp [Option.all_eq_true]

/-- Where no block comment is opened, a kind that the text before the marker has is that of the
statement. -/
theorem CommentedFilter.kind_textBefore {s : Text} {found : CommentedFilter}
    (h : commentedFilter? s = some found) (hblock : ¬ blockOpen <:+: s)
    (hneeds : needsFilter (kind (found.textBefore s)) = true) :
    kind (found.textBefore s) = kind s := by
  have hwords := found.words_dropLineComments_eq h
  have hopen : breakAt? blockOpen (dropLineComments s) = none :=
    breakAt?_dropLineComments isMark_blockOpen (breakAt?_eq_none_iff.2 hblock)
  rw [breakAt?_eq_none_congr isMark_blockOpen hwords] at hopen
  have hwhole := unblocked_of_unopened hopen
  have hbefore := hwhole.of_append.1
  rw [kind_congr hwords, kind_eq, dropComments, hwhole.dropBlockComments_eq,
    hbefore.dropBlockComments_eq]
  rw [kind_eq, dropComments, hbefore.dropBlockComments_eq] at hneeds
  refine (leadingKeyword_append (by decide) ?_ _).symm
  intro hnil
  rw [leadingKeyword, hnil] at hneeds
  exact absurd hneeds (by decide)

/-- **A repair keeps the kind of a statement exactly when it leaves the statement alone or
`keepsKind` holds of the filter it puts into effect.** -/
theorem kind_validation_iff (rules : Rules) (t : Text) (i : Nat) :
    (repair rules t).validation.statements[i]?.map (·.kind) =
        (validate rules t).statements[i]?.map (·.kind) ↔
      ∀ s found, (statements t)[i]? = some s → mended s ≠ s →
        commentedFilter? s = some found → found.keepsKind s = true := by
  rw [getElem?_validation, getElem?_validate]
  cases hs : (statements t)[i]? with
  | none => simp
  | some s =>
      simp only [Option.map_some, Option.some.injEq, checkStatement_kind]
      by_cases hsame : mended s = s
      · refine iff_of_true (by rw [hsame]) ?_
        rintro s' found rfl hchanged
        exact absurd hsame hchanged
      · obtain ⟨found, hfound, hrep, -, htext, -⟩ := exists_of_mended_ne hsame
        rw [htext, kind_uncomment_iff hfound (isRepairable_iff.1 hrep).1]
        constructor
        · rintro hkeeps s' found' rfl - hfound'
          rw [hfound] at hfound'
          rwa [← Option.some.inj hfound']
        · intro hall
          exact hall s found rfl hsame hfound

-- A clause that becomes live inside a block comment is still no part of the kind.
example : (repair {} "/* -- WHERE id = 1\n*/ DELETE FROM t".toList).validation.kind = "DELETE" := by
  decide +kernel

/-- A comment above the keyword: its clause becomes the first word, and the DELETE a WHERE
that passes all checks. -/
theorem kind_lost_below_comment :
    (validate {} "-- WHERE id = 1\nDELETE FROM t".toList).statements[0]?.map (·.kind) =
        some "DELETE" ∧
      (repair {} "-- WHERE id = 1\nDELETE FROM t".toList).validation.statements[0]?.map (·.kind) =
        some "WHERE" ∧
      (repair {} "-- WHERE id = 1\nDELETE FROM t".toList).validation.isValid = true := by
  decide +kernel

end SqlGuard
