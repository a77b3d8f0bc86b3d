/-
Remarks: comments behind the code of a line.

A remark that does not mention the filter word should be of no consequence, wherever in a
statement it is made.  Each scanner has its own reason to overlook it.  To the ones that read
code the line ends where the remark starts, but for a blank, and a blank more or less changes no
word: this holds as well for a line inside a block comment, since line comments are dropped
first, and for one that ends in half a marker, since the blank keeps the halves apart.  The
detector of commented filters does read the remark.  Its first marker is the one that opens it,
so a filter that it finds is one that the remark mentions.

All of them look at a statement line by line, so it is enough to know what each says of the one
line that is changed (`map_lines_remark`).  The phrases that the rules forbid or ask for are
another matter: they are looked for in the whole statement, comments included.
-/
import SqlGuard.Proofs.Statement.Block
import SqlGuard.Proofs.Statement.Detect
import SqlGuard.Proofs.Text.Case
import SqlGuard.Proofs.Verdict.Meaning

namespace SqlGuard

open Text

/-- A line with a comment behind it, a space apart. -/
def withComment (m : Marker) (comment line : Text) : Text :=
  line ++ ' ' :: (m.text ++ comment)

/-- The statement with a comment behind the line with this number, from zero. -/
def remark (number : Nat) (m : Marker) (comment s : Text) : Text :=
  unlines (s.lines.modify number (withComment m comment))

/-! ### The line -/

theorem feed_not_mem_withComment {comment line : Text} (hfeed : '\n' ∉ comment)
    (hline : '\n' ∉ line) (m : Marker) : '\n' ∉ withComment m comment line := by
  have hmark : '\n' ∉ m.text := m.isMark_text.not_mem (by decide)
  simp [withComment, hfeed, hline, hmark]

section Line

variable {line : Text} (hcode : ∀ m : Marker, ¬ m.text <:+: line)

include hcode

theorem cutMarkers_withComment (m : Marker) (comment : Text) :
    cutMarkers Marker.all (withComment m comment line) = line ++ [' '] := by
  have hmark : m.text.isPrefixOf (m.text ++ comment) = true := by simp
  unfold withComment
  rw [cutMarkers_append (by decide) fun m' => breakAt?_eq_none_iff.2 (hcode m'),
    cutMarkers_of_isPrefixOf hmark]

/-- The code of a line has the same words with a comment behind it. -/
theorem words_cutMarkers_withComment (m : Marker) (comment : Text) :
    (cutMarkers Marker.all (withComment m comment line)).words =
      (cutMarkers Marker.all line).words := by
  rw [cutMarkers_withComment hcode, words_append_single (by decide),
    cutMarkers_of_code fun m' => breakAt?_eq_none_iff.2 (hcode m')]

/-- The marker that opens a comment behind code is the first one of its line. -/
theorem firstMarker_withComment (m : Marker) (comment : Text) :
    FirstMarker (withComment m comment line) (line ++ [' ']) m comment := by
  refine ⟨by simp [withComment], ?_⟩
  intro m' p q heq
  -- The space is part of no marker, so none starts in the code and ends behind it.
  have hblank : ' ' ∉ m'.text := m'.isMark_text.not_mem (by decide)
  have hbreak := breakAt?_append m'.isMark_text.nonempty hblank line (m.text ++ comment)
  rw [breakAt?_eq_none_iff.2 (hcode m')] at hbreak
  cases hcut : breakAt? m'.text (m.text ++ comment) with
  | none =>
      rw [hcut] at hbreak
      exact absurd ⟨p, q, by rw [List.append_assoc]; exact heq.symm⟩ (breakAt?_eq_none_iff.1 hbreak)
  | some cut =>
      rw [hcut] at hbreak
      have hle := length_le_of_breakAt? hbreak heq
      simp only [List.length_append, List.length_cons, List.length_nil] at hle ⊢
      omega

theorem disablesFilter_of_code : disablesFilter line = false := by
  rw [Bool.eq_false_iff]
  intro hdisables
  obtain ⟨before, m, comment, hfirst, -⟩ := exists_firstMarker_of_disablesFilter hdisables
  exact hcode m ⟨before, comment, by rw [List.append_assoc]; exact hfirst.eq.symm⟩

/-- A comment that does not mention the filter word disables no filter. -/
theorem disablesFilter_withComment {comment : Text} (hword : ¬ filterWord <:+: lower comment)
    (m : Marker) : disablesFilter (withComment m comment line) = false := by
  rw [Bool.eq_false_iff]
  intro hdisables
  obtain ⟨before, m', comment', hfirst, u, w, v, hcomment', hw⟩ :=
    exists_firstMarker_of_disablesFilter hdisables
  have hsuffix : comment' <:+ comment := (firstMarker_withComment hcode m comment).suffix hfirst.eq
  have hmentions : w <:+: comment := by
    refine List.IsInfix.trans ⟨u, v, ?_⟩ hsuffix.isInfix
    rw [hcomment', List.append_assoc]
  exact hword (hw ▸ hmentions.map Char.toLower)

end Line

/-! ### The statement -/

section Statement

variable {s line comment : Text} {number : Nat}

theorem lines_remark (hfeed : '\n' ∉ comment) (m : Marker) :
    (remark number m comment s).lines = s.lines.modify number (withComment m comment) := by
  refine lines_unlines ?_ ?_
  · rw [Ne, List.modify_eq_nil_iff]
    exact lines_ne_nil s
  · intro l hl
    obtain ⟨i, hi⟩ := List.mem_iff_getElem?.1 hl
    rw [List.getElem?_modify, Option.map_eq_map, Option.map_eq_some_iff] at hi
    obtain ⟨old, hold, rfl⟩ := hi
    have hline := feed_not_mem_of_mem_lines (List.mem_of_getElem? hold)
    split
    · exact feed_not_mem_withComment hfeed hline m
    · exact hline

/-- **Whatever looks the same on the line that a remark is made on looks the same everywhere.** -/
theorem map_lines_remark {α : Type} (f : Text → α) {m : Marker} (hfeed : '\n' ∉ comment)
    (hline : s.lines[number]? = some line) (hf : f (withComment m comment line) = f line) :
    (remark number m comment s).lines.map f = s.lines.map f := by
  rw [lines_remark hfeed]
  refine List.ext_getElem? fun i => ?_
  rw [List.getElem?_map, List.getElem?_map, List.getElem?_modify]
  by_cases hi : number = i
  · subst hi
    simp [hline, hf]
  · simp [hi]

theorem any_lines_remark (p : Text → Bool) {m : Marker} (hfeed : '\n' ∉ comment)
    (hline : s.lines[number]? = some line) (hp : p (withComment m comment line) = p line) :
    (remark number m comment s).lines.any p = s.lines.any p := by
  have hmap := congrArg (List.any · id) (map_lines_remark p hfeed hline hp)
  simpa only [List.any_map, Function.id_comp] using hmap

variable (hline : s.lines[number]? = some line) (hcode : ∀ m : Marker, ¬ m.text <:+: line)
  (hfeed : '\n' ∉ comment)

include hline hcode hfeed

theorem kind_remark (m : Marker) : kind (remark number m comment s) = kind s := by
  have hwords : (dropLineComments (remark number m comment s)).words =
      (dropLineComments s).words := by
    rw [words_dropLineComments, words_dropLineComments, List.flatMap, List.flatMap,
      map_lines_remark (fun l => (cutMarkers Marker.all l).words) hfeed hline
        (words_cutMarkers_withComment hcode m comment)]
  rw [kind_congr hwords, kind_congr rfl]

theorem hasActiveFilter_remark (m : Marker) :
    hasActiveFilter (remark number m comment s) = hasActiveFilter s := by
  rw [Bool.eq_iff_iff, hasActiveFilter_iff, hasActiveFilter_iff, ← List.any_eq_true,
    ← List.any_eq_true, any_lines_remark _ hfeed hline]
  exact mentionsFilter_congr (words_cutMarkers_withComment hcode m comment)

theorem hasCommentedFilter_remark (hword : ¬ filterWord <:+: lower comment) (m : Marker) :
    hasCommentedFilter (remark number m comment s) = hasCommentedFilter s := by
  refine any_lines_remark disablesFilter hfeed hline ?_
  rw [disablesFilter_withComment hcode hword, disablesFilter_of_code hcode]

end Statement

/-! ### The verdict -/

/-- The report on a statement depends on what the scanners say of it and on which of three
phrases it mentions. -/
theorem checkStatement_congr {s s' : Text} (hscan : scan s = scan s')
    (hphrases : ∀ phrase ∈ ["DROP TABLE", "TRUNCATE", "LIMIT"],
      phrase.toList <:+: s.upper ↔ phrase.toList <:+: s'.upper) (rules : Rules) (index : Int) :
    checkStatement rules index s = checkStatement rules index s' := by
  have hmentions : ∀ phrase ∈ ["DROP TABLE", "TRUNCATE", "LIMIT"],
      mentions phrase.toList s.upper = mentions phrase.toList s'.upper := by
    intro phrase hphrase
    rw [Bool.eq_iff_iff, mentions_iff, mentions_iff]
    exact hphrases phrase hphrase
  unfold checkStatement judge violations advice
  rw [hscan, hmentions "DROP TABLE" (by simp), hmentions "TRUNCATE" (by simp),
    hmentions "LIMIT" (by simp)]

/-- **A harmless remark changes nothing.**  Behind a line without comments, it is made with
either marker, on one line, and without the filter word.  Then the scanners say the same of the
statement with it and without it.  So do the rules, unless the remark adds one of the phrases
that they look for. -/
theorem remark_ignored {s line comment : Text} {number : Nat}
    (hline : s.lines[number]? = some line) (hcode : ∀ m : Marker, ¬ m.text <:+: line)
    (hfeed : '\n' ∉ comment) (hword : ¬ filterWord <:+: lower comment) (m : Marker) :
    kind (remark number m comment s) = kind s ∧
      hasActiveFilter (remark number m comment s) = hasActiveFilter s ∧
      hasCommentedFilter (remark number m comment s) = hasCommentedFilter s ∧
      ((∀ phrase ∈ ["DROP TABLE", "TRUNCATE", "LIMIT"],
          phrase.toList <:+: (remark number m comment s).upper ↔ phrase.toList <:+: s.upper) →
        ∀ index rules,
          checkStatement rules index (remark number m comment s) =
            checkStatement rules index s) := by
  have hkind := kind_remark hline hcode hfeed m
  have hactive := hasActiveFilter_remark hline hcode hfeed m
  have hcommented := hasCommentedFilter_remark hline hcode hfeed hword m
  refine ⟨hkind, hactive, hcommented, ?_⟩
  intro hphrases index rules
  refine checkStatement_congr ?_ hphrases rules index
  rw [scan, scan, hkind, hactive, hcommented]

/-- A remark inside a block comment, with a marker and an opening of its own. -/
theorem remark_ignored_in_block :
    remark 1 .slashes "* or -- so".toList "DELETE /* the\nold\n*/ FROM t\nWHERE a = 1".toList =
        "DELETE /* the\nold //* or -- so\n*/ FROM t\nWHERE a = 1".toList ∧
      (checkStatement {} 1 "DELETE /* the\nold\n*/ FROM t\nWHERE a = 1".toList).valid = true ∧
      checkStatement {} 1 "DELETE /* the\nold //* or -- so\n*/ FROM t\nWHERE a = 1".toList =
        checkStatement {} 1 "DELETE /* the\nold\n*/ FROM t\nWHERE a = 1".toList := by
  have hremark : remark 1 .slashes "* or -- so".toList
      "DELETE /* the\nold\n*/ FROM t\nWHERE a = 1".toList =
        "DELETE /* the\nold //* or -- so\n*/ FROM t\nWHERE a = 1".toList := by
    decide +kernel
  have hline : (lines "DELETE /* the\nold\n*/ FROM t\nWHERE a = 1".toList)[1]? =
      some "old".toList := by
    decide +kernel
  have hcode : ∀ m : Marker, ¬ m.text <:+: "old".toList := by
    intro m
    cases m <;> decide
  have hfeed : '\n' ∉ "* or -- so".toList := by decide
  have hword : ¬ filterWord <:+: lower "* or -- so".toList := by decide
  have hignored := (remark_ignored hline hcode hfeed hword .slashes).2.2.2
  rw [hremark] at hignored
  exact ⟨hremark, by decide +kernel, hignored (by decide +kernel) 1 {}⟩

end SqlGuard
