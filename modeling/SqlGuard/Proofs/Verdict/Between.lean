/-
A block comment between two words.

A reader takes a comment for a gap, and a line comment does leave one: its line feed stays.
A block comment leaves nothing.  So the word before it and the word behind it become one, and
when the word before it was the first of the statement, the kind is a word that nobody wrote.

`kind_across_blockComment` says when the comment separates after all: exactly if it did not
have to, because the text behind it starts with a gap of its own or has nothing left in it.
A letter behind the comment is never separated from the word.  No rule knows the kind that
comes of this, and so an UPDATE or DELETE without a filter passes.
-/
import SqlGuard.Proofs.Statement.Filler
import SqlGuard.Proofs.Verdict.Header

namespace SqlGuard

open Text

/-! ### The keyword before the comment -/

theorem keyword_ne_append {c : Char} (hc : isBlank c = false) (keyword : String) (y : Text) :
    keyword ++ leadingKeyword (c :: y) ≠ keyword := by
  intro heq
  have hhead := head?_leadingKeyword hc y
  have hnil : (leadingKeyword (c :: y)).toList = [] := by
    simpa using congrArg String.toList heq
  rw [hnil] at hhead
  exact upperChar_ne_nil c (by simpa using hhead.symm)

/-- A word goes on exactly when what follows it starts with something else than a blank. -/
theorem leadingKeyword_append_eq_iff {w : Text} (hne : w ≠ []) (hw : ∀ c ∈ w, isBlank c = false)
    (y : Text) :
    leadingKeyword (w ++ y) = String.ofList w.upper ↔ ∀ c ∈ y.head?, isBlank c = true := by
  constructor
  · intro heq c hc
    obtain ⟨y, rfl⟩ := List.head?_eq_some_iff.1 hc
    by_contra hblank
    have hsolid : isBlank c = false := by simpa using hblank
    rw [leadingKeyword_append_solid hw hsolid] at heq
    exact keyword_ne_append hsolid _ y heq
  · exact leadingKeyword_of_word hne hw

/-! ### The kind -/

/-- **What a block comment between a word and a text does to the kind.**  The word and the text
are read as one.  So the comment separates them exactly when the text, without its comments, is
empty or starts with a blank.  It never separates letters: their kinds are put together. -/
theorem kind_across_blockComment {w body b : Text} (hne : w ≠ [])
    (hw : ∀ c ∈ w, c.isAlpha = true) (hclose : ¬ blockClose <:+: body)
    (hmark : ∀ m : Marker, ¬ m.text <:+: body) (hb : b.head? ≠ some '/') :
    kind (w ++ (blockComment body ++ b)) = kind (w ++ b) ∧
      (kind (w ++ (blockComment body ++ b)) = kind (w ++ ' ' :: b) ↔
        ∀ c ∈ (dropComments b).head?, isBlank c = true) ∧
      (b.head?.any Char.isAlpha = true →
        kind (w ++ (blockComment body ++ b)) = kind w ++ kind b ∧
          kind (w ++ (blockComment body ++ b)) ≠ kind (w ++ ' ' :: b)) := by
  have hword := PlainWord.of_isAlpha hne hw
  have hblock := dropComments_block hclose (endsInLineComment_of_unmarked hmark) hb
  have hglued : kind (w ++ (blockComment body ++ b)) = leadingKeyword (w ++ dropComments b) := by
    rw [kind_eq, hword.dropComments_append, blockComment, List.append_assoc, List.append_assoc,
      hblock]
  have hiff : kind (w ++ (blockComment body ++ b)) = kind (w ++ ' ' :: b) ↔
      ∀ c ∈ (dropComments b).head?, isBlank c = true := by
    rw [hglued, hword.kind_append_space]
    exact leadingKeyword_append_eq_iff hne hword.solid _
  refine ⟨?_, hiff, ?_⟩
  · rw [hglued, kind_eq, hword.dropComments_append]
  · intro hletter
    cases b with
    | nil => simp at hletter
    | cons c b =>
        have hc : c.isAlpha = true := by simpa using hletter
        have hkeep := dropComments_cons (Marker.ne_char_of_isAlpha hc) b
        constructor
        · rw [hglued, hword.kind_self, kind_eq, hkeep]
          exact leadingKeyword_append_solid hword.solid (isBlank_of_isAlpha hc) _
        · rw [Ne, hiff, hkeep]
          intro hblank
          simpa [isBlank_of_isAlpha hc] using hblank c rfl

/-- With a gap behind the comment the keyword is over, with a letter it is not. -/
theorem kind_across_blockComment_delete :
    ("DELETE".toList ≠ [] ∧ (∀ c ∈ "DELETE".toList, c.isAlpha = true) ∧
      ¬ blockClose <:+: " x ".toList ∧ (∀ m : Marker, ¬ m.text <:+: " x ".toList)) ∧
    kind ("DELETE".toList ++ (blockComment " x ".toList ++ " FROM t".toList)) =
      kind ("DELETE".toList ++ ' ' :: " FROM t".toList) ∧
    kind ("DELETE".toList ++ (blockComment " x ".toList ++ "FROM t".toList)) =
      kind "DELETE".toList ++ kind "FROM t".toList := by
  have hne : "DELETE".toList ≠ [] := by decide
  have hw : ∀ c ∈ "DELETE".toList, c.isAlpha = true := List.all_eq_true.1 (by decide)
  have hclose : ¬ blockClose <:+: " x ".toList := by decide
  have hmark : ∀ m : Marker, ¬ m.text <:+: " x ".toList := by
    intro m
    cases m <;> decide
  have hgap : ∀ c ∈ (dropComments " FROM t".toList).head?, isBlank c = true := by
    have hhead : (dropComments " FROM t".toList).head? = some ' ' := by decide +kernel
    rw [hhead]
    rintro c ⟨⟩
    decide
  refine ⟨⟨hne, hw, hclose, hmark⟩, ?_, ?_⟩
  · exact (kind_across_blockComment hne hw hclose hmark (by decide)).2.1.2 hgap
  · exact ((kind_across_blockComment hne hw hclose hmark (by decide)).2.2 (by decide)).1

/-- A DELETE of all rows that passes, since its kind is another word. -/
theorem kind_glued_across_blockComment :
    (¬ blockClose <:+: " x ".toList ∧ ¬ Marker.dashes.text <:+: " x ".toList ∧
      ¬ Marker.slashes.text <:+: " x ".toList) ∧
      kind ("DELETE".toList ++ (blockComment " x ".toList ++ "FROM t".toList)) = "DELETEFROM" ∧
      kind ("DELETE".toList ++ ' ' :: "FROM t".toList) = "DELETE" ∧
      (validate {} ("DELETE".toList ++ ' ' :: "FROM t".toList)).isValid = false ∧
      (validate {} ("DELETE".toList ++
        (blockComment " x ".toList ++ "FROM t".toList))).isValid = true := by
  decide +kernel

end SqlGuard
