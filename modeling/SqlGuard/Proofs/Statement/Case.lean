/-
The scanners and letter case.

Three mechanisms decide what a scanner makes of a letter: the filter word is compared with the
lower case of what stands in the text, the extractor looks for it in the upper case of a whole
comment, and the kind of a statement is the upper case of its first word.  None of them tells a
letter from the same letter in another case.  Comments hold even less of a danger, as their
markers hold no letters.

So what a scanner says of a text it says of the text in lower case (`scan_lower`), and what it
takes out of a text it takes out of the text in lower case, letter for letter.
-/
import SqlGuard.Proofs.Statement.Block
import SqlGuard.Proofs.Text.Case
import SqlGuard.Verdict

namespace SqlGuard

open Text

/-! ### Statements -/

@[simp]
theorem statements_lower (t : Text) : statements (lower t) = (statements t).map lower := by
  unfold statements
  rw [splitOn_lower (by decide), map_map_lower trim_lower, filter_isEmpty_lower]

@[simp]
theorem rejoin_map_lower (ss : List Text) : rejoin (ss.map lower) = lower (rejoin ss) := by
  unfold rejoin
  rw [intercalate_map_lower (by decide), lower_append]
  rfl

/-! ### Comments -/

theorem Marker.not_isAlpha_of_mem_text {m : Marker} {c : Char} (hc : c ∈ m.text) :
    c.isAlpha = false := by
  cases m <;> simp_all [Marker.text, Marker.char]

@[simp]
theorem cutMarkers_lower (line : Text) :
    cutMarkers Marker.all (lower line) = lower (cutMarkers Marker.all line) := by
  rw [cutMarkers_all, cutMarkers_all, upTo_lower fun _ => Marker.not_isAlpha_of_mem_text,
    upTo_lower fun _ => Marker.not_isAlpha_of_mem_text]

@[simp]
theorem codePart_lower (line : Text) : codePart (lower line) = lower (codePart line) := by
  unfold codePart
  rw [trim_lower, cutMarkers_lower]

@[simp]
theorem isCommentLine_lower (line : Text) : isCommentLine (lower line) = isCommentLine line := by
  unfold isCommentLine
  simp only [trim_lower, isPrefixOf_lower fun _ => Marker.not_isAlpha_of_mem_text]

@[simp]
theorem dropLineComments_lower (s : Text) :
    dropLineComments (lower s) = lower (dropLineComments s) := by
  unfold dropLineComments
  rw [lines_lower, map_map_lower cutMarkers_lower, unlines_map_lower]

@[simp]
theorem dropBlockComments_lower (s : Text) :
    dropBlockComments (lower s) = lower (dropBlockComments s) := by
  have hopens : ∀ c ∈ blockOpen, c.isAlpha = false := by simp [blockOpen]
  have hcloses : ∀ c ∈ blockClose, c.isAlpha = false := by simp [blockClose]
  induction s using openBlock?.induct with
  | case1 s hopen =>
      rw [dropBlockComments_eq, dropBlockComments_eq s, breakAt?_lower hopens, hopen]
      rfl
  | case2 s before opened hopen hclose =>
      rw [dropBlockComments_eq, dropBlockComments_eq s, breakAt?_lower hopens, hopen]
      simp only [Option.map_some, breakAt?_lower hcloses, hclose, Option.map_none]
  | case3 s before opened hopen inside rest hclose ih =>
      rw [dropBlockComments_eq, dropBlockComments_eq s, breakAt?_lower hopens, hopen]
      simp only [Option.map_some, breakAt?_lower hcloses, hclose, ih, lower_append]

theorem leadingKeyword_lower (text : Text) : leadingKeyword (lower text) = leadingKeyword text := by
  unfold leadingKeyword
  rw [words_lower]
  cases text.words with
  | nil => rfl
  | cons w ws => simp only [List.map_cons, upper_lower]

/-- **The kind of a statement does not depend on the case of its letters.** -/
theorem kind_lower (s : Text) : kind (lower s) = kind s := by
  rw [kind_eq, kind_eq, dropComments, dropLineComments_lower, dropBlockComments_lower,
    leadingKeyword_lower]
  rfl

/-! ### Filters -/

theorem afterFilterWord?_lower (s : Text) :
    afterFilterWord? (lower s) = (afterFilterWord? s).map lower := by
  have htake : ((lower s).take filterWord.length).map Char.toLower =
      (s.take filterWord.length).map Char.toLower := by
    rw [lower, ← List.map_take, List.map_map]
    exact List.map_congr_left fun c _ => toLower_toLower c
  have hdrop : (lower s).drop filterWord.length = lower (s.drop filterWord.length) :=
    List.map_drop.symm
  unfold afterFilterWord?
  rw [htake, hdrop]
  split <;> rfl

theorem head?_lower_any {p : Char → Bool} (hp : ∀ c, p c.toLower = p c) (s : Text) :
    (lower s).head?.any p = s.head?.any p := by
  cases s with
  | nil => rfl
  | cons c s => exact hp c

theorem hasCondition_lower {opens : Char → Bool} (hopens : ∀ c, opens c.toLower = opens c)
    (r : Text) : hasCondition opens (lower r) = hasCondition opens r := by
  unfold hasCondition
  rw [head?_lower_any isBlank_toLower, dropWhile_lower isBlank_toLower, head?_lower_any hopens]

theorem startsFilter_lower {opens : Char → Bool} (hopens : ∀ c, opens c.toLower = opens c)
    (before after : Text) :
    startsFilter opens (lower before) (lower after) = startsFilter opens before after := by
  unfold startsFilter
  rw [afterFilterWord?_lower]
  cases afterFilterWord? after with
  | none => rfl
  | some r =>
      simp only [Option.map_some, head?_lower_any isWord_toLower, hasCondition_lower hopens]

theorem mentionsFilter_lower (code : Text) : mentionsFilter (lower code) = mentionsFilter code := by
  refine hasCut_lower (startsFilter_lower fun c => ?_) code
  simp [bne, beq_toLower]

theorem hasActiveFilter_lower (s : Text) : hasActiveFilter (lower s) = hasActiveFilter s := by
  unfold hasActiveFilter
  rw [lines_lower, List.any_map]
  simp only [Function.comp_def, isCommentLine_lower, codePart_lower, mentionsFilter_lower]

theorem startsDisabled_lower (m : Marker) (before after : Text) :
    startsDisabled m (lower before) (lower after) = startsDisabled m before after := by
  have hchar : ∀ c : Char, (c.toLower != m.char) = (c != m.char) := by
    intro c
    rw [bne, bne, beq_toLower (Marker.not_isAlpha_of_mem_text (m := m) (by simp [Marker.text]))]
  have hdrop : (lower after).drop m.text.length = lower (after.drop m.text.length) :=
    List.map_drop.symm
  unfold startsDisabled
  rw [isPrefixOf_lower fun _ => Marker.not_isAlpha_of_mem_text, dropWhile_lower isBlank_toLower,
    head?_lower_any hchar, hdrop, dropWhile_lower isBlank_toLower, afterFilterWord?_lower]
  cases afterFilterWord? ((after.drop m.text.length).dropWhile isBlank) with
  | none => rfl
  | some r => simp only [Option.map_some, head?_lower_any isWord_toLower]

theorem disablesFilter_lower (line : Text) : disablesFilter (lower line) = disablesFilter line := by
  unfold disablesFilter
  rw [isCommentLine_lower, trim_lower, hasCut_lower (startsFilter_lower fun _ => rfl)]
  simp only [hasCut_lower (startsDisabled_lower _)]

theorem hasCommentedFilter_lower (s : Text) :
    hasCommentedFilter (lower s) = hasCommentedFilter s := by
  unfold hasCommentedFilter
  rw [lines_lower, List.any_map]
  simp only [Function.comp_def, disablesFilter_lower]

/-- **No scanner minds the case of letters.** -/
theorem scan_lower (s : Text) : scan (lower s) = scan s := by
  unfold scan
  rw [kind_lower, hasActiveFilter_lower, hasCommentedFilter_lower]

/-! ### The filter that is found -/

/-- A commented filter with its letters in lower case. -/
def CommentedFilter.lower (found : CommentedFilter) : CommentedFilter :=
  { found with before := Text.lower found.before, clause := Text.lower found.clause }

theorem filterClause?_lower (m : Marker) (line : Text) :
    m.filterClause? (lower line) =
      (m.filterClause? line).map fun found => (lower found.1, lower found.2) := by
  unfold Marker.filterClause?
  rw [breakAt?_lower fun _ => Marker.not_isAlpha_of_mem_text]
  cases breakAt? m.text line with
  | none => rfl
  | some cut =>
      simp only [Option.map_some, trim_lower, upper_lower]
      split <;> rfl

/-- **The extractor finds the same filter**, with its letters as they are in the text. -/
theorem commentedFilter?_lower (s : Text) :
    commentedFilter? (lower s) = (commentedFilter? s).map CommentedFilter.lower := by
  have hmarkers : ∀ line : Text, Marker.all.findSome? (·.filterClause? (lower line)) =
      (Marker.all.findSome? (·.filterClause? line)).map fun found =>
        (lower found.1, lower found.2) := by
    intro line
    rw [List.map_findSome?]
    congr 1
    funext m
    exact filterClause?_lower m line
  unfold commentedFilter?
  rw [lines_lower, List.zipIdx_map, List.findSome?_map, List.map_findSome?]
  congr 1
  funext p
  simp only [Function.comp_apply, Prod.map, hmarkers, Option.map_map]
  rfl

end SqlGuard
