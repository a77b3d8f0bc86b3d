/-
The filter of a valid UPDATE or DELETE.

When the rules ask for a filter, a valid UPDATE or DELETE has an active one.  Active means
that it stands outside line comments, on one line, and nothing more: a block comment is
code to the scanner that looks for filters, while the scanner that finds the kind leaves
block comments out.  So the filter need not be part of the clean text.

It is as long as the statement has no block comment (`Unblocked`).  In general a filter of
the clean text is one that starts at a place outside the block comments, judged by what is
left around that place when they are gone.  A filter inside a block comment is lost, one
that touches a word on the other side of a comment is no word of its own any more, and one
whose condition is a comment has none; `FilterOutsideBlocks` is the exact condition.
-/
import SqlGuard.Proofs.Statement.Block
import SqlGuard.Proofs.Statement.Filter
import SqlGuard.Proofs.Verdict.Meaning

namespace SqlGuard

open Text

/-! ### Filters and block comments -/

/-- Whether a filter starts at some place of a text outside its block comments: they are
those before the place and those behind it, and without them no word character comes right
before the place, and the filter word with a condition right behind it. -/
def FilterOutsideBlocks (s : Text) : Prop :=
  ∃ before after, s = before ++ after ∧
    dropBlockComments s = dropBlockComments before ++ dropBlockComments after ∧
    startsFilter (· != ';') (dropBlockComments before).reverse (dropBlockComments after) = true

theorem mentionsFilter_dropBlockComments_iff {s : Text} :
    mentionsFilter (dropBlockComments s) = true ↔ FilterOutsideBlocks s := by
  unfold mentionsFilter
  rw [hasCut_iff]
  constructor
  · rintro ⟨u, v, hdrop, hstarts⟩
    obtain ⟨before, after, heq, rfl, rfl⟩ := exists_place_of_dropBlockComments hdrop
    exact ⟨before, after, heq, hdrop, hstarts⟩
  · rintro ⟨before, after, -, hdrop, hstarts⟩
    exact ⟨_, _, hdrop, hstarts⟩

/-- Clean text mentions a filter exactly when one stands outside all comments. -/
theorem mentionsFilter_clean_iff {s : Text} :
    mentionsFilter (clean s) = true ↔ FilterOutsideBlocks (dropLineComments s) := by
  unfold clean
  rw [mentionsFilter_congr (words_spaced _), mentionsFilter_dropBlockComments_iff]

/-- An active filter is one of the clean text, if there is no block comment to hide it. -/
theorem mentionsFilter_clean_of_unblocked {s : Text} (hblock : Unblocked (dropLineComments s))
    (hactive : hasActiveFilter s = true) : mentionsFilter (clean s) = true := by
  obtain ⟨line, hline, hfilter⟩ := exists_line_of_hasActiveFilter hactive
  unfold clean
  rw [mentionsFilter_congr (words_spaced _), hblock.dropBlockComments_eq]
  exact mentionsFilter_of_mem_lines hline hfilter

/-! ### Valid statements -/

/-- **What stands behind a valid UPDATE or DELETE when the rules ask for a filter.**  A line
of it has a filter outside line comments.  Without block comments this is a filter of the
clean text; with them it is exactly when a filter starts outside them. -/
theorem filter_of_valid {rules : Rules} {index : Int} {s : Text}
    (hrequire : rules.requireFilter = true)
    (hkind : (checkStatement rules index s).kind = "UPDATE" ∨
      (checkStatement rules index s).kind = "DELETE")
    (hvalid : (checkStatement rules index s).valid = true) :
    (∃ line ∈ (dropLineComments s).lines, mentionsFilter line = true) ∧
      (Unblocked (dropLineComments s) → mentionsFilter (clean s) = true) ∧
      (mentionsFilter (clean s) = true ↔ FilterOutsideBlocks (dropLineComments s)) := by
  rw [checkStatement_kind] at hkind
  have hactive : hasActiveFilter s = true :=
    (checkStatement_valid_iff.1 hvalid).filtered hrequire hkind
  refine ⟨exists_line_of_hasActiveFilter hactive, ?_, mentionsFilter_clean_iff⟩
  intro hblock
  exact mentionsFilter_clean_of_unblocked hblock hactive

/-- Line comments of both kinds around a filter that counts. -/
theorem filter_of_valid_among_comments :
    (checkStatement {} 1 "DELETE FROM t -- old rows\nWHERE id = 1 // one".toList).kind =
        "DELETE" ∧
      (checkStatement {} 1 "DELETE FROM t -- old rows\nWHERE id = 1 // one".toList).valid =
        true ∧
      mentionsFilter (clean "DELETE FROM t -- old rows\nWHERE id = 1 // one".toList) = true := by
  have hkind : (checkStatement {} 1
      "DELETE FROM t -- old rows\nWHERE id = 1 // one".toList).kind = "DELETE" := by
    decide +kernel
  have hvalid : (checkStatement {} 1
      "DELETE FROM t -- old rows\nWHERE id = 1 // one".toList).valid = true := by
    decide +kernel
  have hblock : Unblocked (dropLineComments
      "DELETE FROM t -- old rows\nWHERE id = 1 // one".toList) :=
    unblocked_of_unopened (by decide +kernel)
  exact ⟨hkind, hvalid, (filter_of_valid rfl (Or.inr hkind) hvalid).2.1 hblock⟩

/-- A filter in a block comment passes for one, and the DELETE for valid. -/
theorem filter_accepted_in_block :
    ({} : Rules).requireFilter = true ∧
      (checkStatement {} 1 "DELETE FROM t /* WHERE id = 1 */".toList).kind = "DELETE" ∧
      (checkStatement {} 1 "DELETE FROM t /* WHERE id = 1 */".toList).valid = true ∧
      (checkStatement {} 1 "DELETE FROM t /* WHERE id = 1 */".toList).hasActiveFilter = true ∧
      mentionsFilter (clean "DELETE FROM t /* WHERE id = 1 */".toList) = false := by
  decide +kernel

end SqlGuard
