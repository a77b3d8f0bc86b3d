/-
Statements that drop a table.

The rule against them looks for a phrase, two words and one space, in the upper case of the
whole statement.  The words of the statement are read elsewhere, from its clean text, where
every gap is one space wide.  The two views differ where the statement has another gap.

`drop_caught_iff` says what the rule comes to for the statements that begin with the two words:
the phrase decides, and nothing that the clean text says.  For a statement that is laid out with
any filler between the words (`TableDrop`), the phrase is there exactly when that filler is one
space, or when the phrase stands somewhere else in the statement, be it in a comment.

The phrase cannot come about at a seam.  Its first letter occurs in it once, and so does the
first letter of its second word; so where one of the two words begins, the phrase begins with
it, or has its gap right before it.
-/
import SqlGuard.Proofs.Statement.Filler
import SqlGuard.Proofs.Verdict.Meaning

namespace SqlGuard

open Text

/-- Whether the words outside comments begin as those of a statement that drops a table. -/
def DropsTable (s : Text) : Prop :=
  ["DROP".toList, "TABLE".toList] <+: (clean s).words.map upper

instance (s : Text) : Decidable (DropsTable s) :=
  inferInstanceAs (Decidable (_ <+: _))

theorem DropsTable.kind_eq {s : Text} (h : DropsTable s) : kind s = "DROP" := by
  obtain ⟨rest, hrest⟩ := h
  unfold kind leadingKeyword
  cases hwords : (clean s).words with
  | nil =>
      rw [hwords] at hrest
      simp at hrest
  | cons w ws =>
      rw [hwords] at hrest
      obtain ⟨hw, -⟩ := List.cons.inj hrest
      simp only [← hw]
      rfl

/-! ### Layouts -/

/-- A statement that drops a table, by its parts: the two words in any case, a filler in front
and one between them, and a rest that does not continue the second word. -/
structure TableDrop where
  front : Text
  dropWord : Text
  gap : Text
  tableWord : Text
  rest : Text
  front_filler : Filler front
  dropWord_upper : dropWord.upper = "DROP".toList
  gap_filler : Filler gap
  /-- The filler leaves a blank between the words. -/
  gap_left : dropComments gap ≠ []
  tableWord_upper : tableWord.upper = "TABLE".toList
  rest_blank : ∀ c ∈ (dropComments rest).head?, isBlank c = true

namespace TableDrop

variable (d : TableDrop)

/-- The statement with this layout. -/
def text : Text :=
  d.front ++ (d.dropWord ++ (d.gap ++ (d.tableWord ++ d.rest)))

theorem dropWord_plain : PlainWord d.dropWord :=
  .of_upper (List.all_eq_true.1 (by decide)) (by decide) d.dropWord_upper

theorem tableWord_plain : PlainWord d.tableWord :=
  .of_upper (List.all_eq_true.1 (by decide)) (by decide) d.tableWord_upper

theorem dropComments_text :
    dropComments d.text = dropComments d.front ++
      (d.dropWord ++ (dropComments d.gap ++ (d.tableWord ++ dropComments d.rest))) := by
  rw [text, d.front_filler.dropComments_append (d.dropWord_plain.head?_append_ne_slash _),
    d.dropWord_plain.dropComments_append,
    d.gap_filler.dropComments_append (d.tableWord_plain.head?_append_ne_slash _),
    d.tableWord_plain.dropComments_append]

theorem words_clean : (clean d.text).words =
    d.dropWord :: d.tableWord :: (dropComments d.rest).words := by
  have hgap : IsGap (dropComments d.gap) :=
    ⟨d.gap_left, d.gap_filler.isBlank_of_mem_dropComments⟩
  calc (clean d.text).words = (dropComments d.text).words := words_spaced _
    _ = d.dropWord.words ++ words (d.tableWord ++ dropComments d.rest) := by
        rw [dropComments_text, words_blanks_append d.front_filler.isBlank_of_mem_dropComments,
          words_append_gap hgap]
    _ = d.dropWord :: d.tableWord :: (dropComments d.rest).words := by
        rw [words_of_solid d.dropWord_plain.nonempty d.dropWord_plain.solid,
          words_append_of_break d.tableWord_plain.nonempty d.tableWord_plain.solid d.rest_blank]
        rfl

theorem dropsTable : DropsTable d.text := by
  rw [DropsTable, d.words_clean, List.map_cons, List.map_cons, d.dropWord_upper,
    d.tableWord_upper]
  exact List.prefix_append _ _

/-! ### The phrase -/

/-- Where the first word begins, the phrase begins or is elsewhere. -/
private theorem phrase_at_drop (u v : Text) :
    "DROP TABLE".toList <:+: u ++ ("DROP".toList ++ v) ↔
      "DROP TABLE".toList <:+: u ∨ " TABLE".toList <+: v ∨ "DROP TABLE".toList <:+: v := by
  have h := infix_append_cons_iff (c := 'D') (p := []) (q := "ROP TABLE".toList) (u := u)
    (v := "ROP".toList ++ v) (by simp) (by decide)
  simpa [List.infix_cons_iff] using h

/-- Where the second word begins, the first one stands before it with a space, or the phrase is
elsewhere. -/
private theorem phrase_at_table (u v : Text) :
    "DROP TABLE".toList <:+: u ++ ("TABLE".toList ++ v) ↔
      "DROP TABLE".toList <:+: u ∨ "DROP ".toList <:+ u ∨ "DROP TABLE".toList <:+: v := by
  have h := infix_append_cons_iff (c := 'T') (p := "DROP ".toList) (q := "ABLE".toList) (u := u)
    (v := "ABLE".toList ++ v) (by decide) (by decide)
  simpa [List.infix_cons_iff] using h

/-- **The phrase stands in a statement with this layout exactly when one space separates its
words**, or when it stands in one of the other parts. -/
theorem phrase_iff : "DROP TABLE".toList <:+: d.text.upper ↔
    d.gap = [' '] ∨ "DROP TABLE".toList <:+: d.front.upper ∨
      "DROP TABLE".toList <:+: d.gap.upper ∨ "DROP TABLE".toList <:+: d.rest.upper := by
  have hupper : d.text.upper = d.front.upper ++
      ("DROP".toList ++ (d.gap.upper ++ ("TABLE".toList ++ d.rest.upper))) := by
    rw [text, upper_append, upper_append, upper_append, upper_append, d.dropWord_upper,
      d.tableWord_upper]
  have hspace : " TABLE".toList <+: d.gap.upper ++ ("TABLE".toList ++ d.rest.upper) ↔
      d.gap = [' '] :=
    d.gap_filler.space_prefix_iff (by decide) _
  have hend : ¬ "DROP ".toList <:+ d.gap.upper := by
    intro h
    have hletter : ['P', ' '] <:+ "DROP ".toList := by decide
    exact d.gap_filler.not_letter_space_suffix (by decide) (hletter.trans h)
  rw [hupper, phrase_at_drop, phrase_at_table, hspace]
  simp only [hend, false_or]
  exact or_left_comm

end TableDrop

/-! ### The verdict -/

/-- The rule about filters says nothing of a statement that drops a table. -/
theorem DropsTable.invalid_iff {rules : Rules} {index : Int} {s : Text} (h : DropsTable s)
    (hdrop : rules.allowDrop = false) :
    (checkStatement rules index s).valid = false ↔
      "DROP TABLE".toList <:+: s.upper ∨ hasCommentedFilter s = true ∨
        ("TRUNCATE".toList <:+: s.upper ∧ rules.allowTruncate = false) := by
  have hkind : ¬ (kind s = "UPDATE" ∨ kind s = "DELETE") := by
    rw [h.kind_eq]
    decide
  rw [← Bool.not_eq_true, checkStatement_valid_iff, ← not_iff_not, not_not]
  constructor
  · rintro ⟨hcomment, -, hphrase, htruncate⟩
    rintro (hp | hc | ⟨ht, hrule⟩)
    · simp [hphrase hp] at hdrop
    · simp [hcomment] at hc
    · simp [htruncate ht] at hrule
  · intro hnone
    simp only [not_or, not_and, Bool.not_eq_false] at hnone
    exact ⟨by simpa using hnone.2.1, fun _ hk => absurd hk hkind, fun hp => absurd hp hnone.1,
      hnone.2.2⟩

/-- **What the rule against dropping tables catches.**  Of the statements that begin with the two
words, it is those that hold the phrase with one space; a commented filter and the rule about
truncation are the other ways to be invalid.  Whatever filler stands between the words, the
statement begins with them, and it holds the phrase exactly when the filler is one space or the
phrase stands in another part. -/
theorem drop_caught_iff {rules : Rules} (hdrop : rules.allowDrop = false) (index : Int) :
    (∀ s, DropsTable s →
      ((checkStatement rules index s).valid = false ↔
        "DROP TABLE".toList <:+: s.upper ∨ hasCommentedFilter s = true ∨
          ("TRUNCATE".toList <:+: s.upper ∧ rules.allowTruncate = false))) ∧
      ∀ d : TableDrop, DropsTable d.text ∧
        ("DROP TABLE".toList <:+: d.text.upper ↔
          d.gap = [' '] ∨ "DROP TABLE".toList <:+: d.front.upper ∨
            "DROP TABLE".toList <:+: d.gap.upper ∨ "DROP TABLE".toList <:+: d.rest.upper) :=
  ⟨fun _ h => h.invalid_iff hdrop, fun d => ⟨d.dropsTable, d.phrase_iff⟩⟩

/-- A statement with a line comment between its two words. -/
def dropAcrossLines : TableDrop where
  front := []
  dropWord := "drop".toList
  gap := ' ' :: (Marker.dashes.text ++ (" old rows".toList ++ ['\n']))
  tableWord := "Table".toList
  rest := " t".toList
  front_filler := .nil
  dropWord_upper := by decide
  gap_filler := .blank (by decide) (.line (by decide) .nil)
  gap_left := by decide +kernel
  tableWord_upper := by decide
  rest_blank := by
    have hhead : (dropComments " t".toList).head? = some ' ' := by decide +kernel
    rw [hhead]
    rintro c ⟨⟩
    decide

/-- It passes; with one space between the words it does not. -/
theorem drop_caught_iff_across_lines :
    ({} : Rules).allowDrop = false ∧
      (DropsTable dropAcrossLines.text ∧
        (checkStatement {} 1 dropAcrossLines.text).valid = true) ∧
      DropsTable "drop Table t".toList ∧
        (checkStatement {} 1 "drop Table t".toList).valid = false := by
  have hrules : ({} : Rules).allowDrop = false := rfl
  have hcaught := drop_caught_iff hrules 1
  have hwide := hcaught.2 dropAcrossLines
  have hparts : ¬ (dropAcrossLines.gap = [' '] ∨
      "DROP TABLE".toList <:+: dropAcrossLines.front.upper ∨
      "DROP TABLE".toList <:+: dropAcrossLines.gap.upper ∨
      "DROP TABLE".toList <:+: dropAcrossLines.rest.upper) := by decide +kernel
  have hothers : hasCommentedFilter dropAcrossLines.text = false ∧
      ¬ "TRUNCATE".toList <:+: dropAcrossLines.text.upper := by decide +kernel
  have hone : DropsTable "drop Table t".toList := by decide +kernel
  refine ⟨hrules, ⟨hwide.1, ?_⟩, hone, (hcaught.1 _ hone).2 (Or.inl (by decide +kernel))⟩
  rw [← Bool.not_eq_false, hcaught.1 _ hwide.1, hwide.2]
  rintro (hphrase | hcomment | htruncate)
  · exact hparts hphrase
  · simp [hothers.1] at hcomment
  · exact hothers.2 htruncate.1

/-- Two spaces between the words are enough for the rule to miss them. -/
theorem drop_missed_at_wide_gap :
    ({} : Rules).allowDrop = false ∧ DropsTable "DROP  TABLE t".toList ∧
      (checkStatement {} 1 "DROP  TABLE t".toList).valid = true := by
  decide +kernel

end SqlGuard
