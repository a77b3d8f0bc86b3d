/-
Text, and the ways the scanners take it apart.

A text is a list of characters, so that every scanner is a recursion on the text itself.  Two
operations carry the rest.  `List.splitOn` divides a text at every separator, which gives lines,
statements and words.  `firstCut?` finds the first place where a condition on both sides holds;
searching for a marker, for a keyword, or for a keyword in a given company are all instances.
-/
import SqlGuard.Text.Upper

namespace SqlGuard

/-! ### Classes of characters -/

-- A class that no formula describes is a table, short enough to be searched from the front.

/-- Whether a code point lies in one of the closed ranges of a table. -/
def inRanges (table : List (Nat × Nat)) (n : Nat) : Bool :=
  table.any fun range => range.1 ≤ n && n ≤ range.2

/-- Whether a character is blank: one of ASCII, one of the four separator controls, or a space or
line separator of another script.  The zero-width space and the byte-order mark are not. -/
def isBlank (c : Char) : Bool :=
  let n := c.toNat
  (9 ≤ n && n ≤ 13) || (28 ≤ n && n ≤ 32) || n == 0x85 || n == 0xA0 || n == 0x1680 ||
    (0x2000 ≤ n && n ≤ 0x200A) || n == 0x2028 || n == 0x2029 || n == 0x202F || n == 0x205F ||
    n == 0x3000

/-- Whether a character is one of the blanks that normalisation collapses: the space, the tab,
the form feed and the vertical tab. -/
def isHorizontal (c : Char) : Bool :=
  c == ' ' || c == '\t' || c == '\x0c' || c == '\x0b'

/-- What normalisation collapses is blank. -/
theorem isBlank_of_isHorizontal {c : Char} (h : isHorizontal c = true) : isBlank c = true := by
  simp only [isHorizontal, Bool.or_eq_true, beq_iff_eq] at h
  rcases h with ((rfl | rfl) | rfl) | rfl <;> decide

/-- A text is a list of characters; its length counts code points. -/
abbrev Text := List Char

namespace Text

/-! ### Lines, words and blanks at the ends -/

/-- The lines of a text.  Only the line feed ends a line, and every text has at least one. -/
def lines (s : Text) : List Text :=
  s.splitOn '\n'

/-- The text whose lines are given. -/
def unlines (ls : List Text) : Text :=
  ['\n'].intercalate ls

/-- The text without the blanks in front of it. -/
def trimLeft (s : Text) : Text :=
  s.dropWhile isBlank

/-- The text without the blanks behind it. -/
def trimRight (s : Text) : Text :=
  (s.reverse.dropWhile isBlank).reverse

/-- The text without the blanks at either end. -/
def trim (s : Text) : Text :=
  s.trimLeft.trimRight

/-- The text without the characters of a class at either end. -/
def trimClass (drop : Char → Bool) (s : Text) : Text :=
  ((s.dropWhile drop).reverse.dropWhile drop).reverse

/-- The non-empty pieces between the characters of a class. -/
def pieces (separator : Char → Bool) (s : Text) : List Text :=
  (s.splitOnP separator).filter (!·.isEmpty)

/-- The words of a text: its longest runs without a blank. -/
def words (s : Text) : List Text :=
  s.pieces isBlank

/-- The words of a text with one space between neighbours. -/
def spaced (s : Text) : Text :=
  [' '].intercalate s.words

/-- The upper case of a text; it may be longer than the text. -/
def upper (s : Text) : Text :=
  s.flatMap upperChar

/-! ### Searching -/

/-- The first cut of a text for which `fits` holds.  The part before the cut is handed to `fits`
nearest character first, so that a look back is a look at its head. -/
def firstCut? (fits : Text → Text → Bool) (s : Text) : Option (Text × Text) :=
  go [] s
where
  /-- Try the cut between `passed` and the rest, then the ones behind it. -/
  go (passed : Text) : Text → Option (Text × Text)
    | [] => if fits passed [] then some (passed.reverse, []) else none
    | c :: rest =>
      if fits passed (c :: rest) then some (passed.reverse, c :: rest) else go (c :: passed) rest

/-- Whether some cut of the text fits. -/
def hasCut (fits : Text → Text → Bool) (s : Text) : Bool :=
  (s.firstCut? fits).isSome

/-- What stands before and after the first occurrence of a mark. -/
def breakAt? (mark s : Text) : Option (Text × Text) :=
  (s.firstCut? fun _ after => mark.isPrefixOf after).map fun cut =>
    (cut.1, cut.2.drop mark.length)

/-- The text up to the first occurrence of a mark, all of it if there is none. -/
def upTo (mark s : Text) : Text :=
  match breakAt? mark s with
  | some (before, _) => before
  | none => s

/-- Whether a phrase occurs in the text. -/
def mentions (phrase s : Text) : Bool :=
  s.hasCut fun _ after => phrase.isPrefixOf after

/-! ### Small facts -/

@[simp]
theorem unlines_lines (s : Text) : unlines (lines s) = s :=
  List.intercalate_splitOn '\n'

/-- A cut divides the text: nothing is lost and nothing is added. -/
theorem eq_append_of_firstCut? {fits : Text → Text → Bool} {s before after : Text}
    (h : s.firstCut? fits = some (before, after)) : s = before ++ after := by
  have main : ∀ (passed s : Text), firstCut?.go fits passed s = some (before, after) →
      passed.reverse ++ s = before ++ after := by
    intro passed s
    induction s generalizing passed with
    | nil =>
      intro h
      simp only [firstCut?.go] at h
      split at h <;> simp_all
    | cons c rest ih =>
      intro h
      simp only [firstCut?.go] at h
      split at h
      · simp_all
      · simpa using ih (c :: passed) h
  simpa using main [] s h

/-- The cut that is found does fit. -/
theorem fits_of_firstCut? {fits : Text → Text → Bool} {s before after : Text}
    (h : s.firstCut? fits = some (before, after)) : fits before.reverse after = true := by
  have main : ∀ (passed s : Text), firstCut?.go fits passed s = some (before, after) →
      fits before.reverse after = true := by
    intro passed s
    induction s generalizing passed with
    | nil =>
      intro h
      simp only [firstCut?.go] at h
      split at h
      · simp only [Option.some.injEq, Prod.mk.injEq] at h
        obtain ⟨rfl, rfl⟩ := h
        simpa
      · simp at h
    | cons c rest ih =>
      intro h
      simp only [firstCut?.go] at h
      split at h
      · simp only [Option.some.injEq, Prod.mk.injEq] at h
        obtain ⟨rfl, rfl⟩ := h
        simpa
      · exact ih (c :: passed) h
  exact main [] s h

/-- A text that holds a mark is what stands before it, the mark, and what follows it. -/
theorem eq_append_of_breakAt? {mark s before after : Text}
    (h : breakAt? mark s = some (before, after)) : s = before ++ (mark ++ after) := by
  obtain ⟨⟨a, b⟩, hcut, hab⟩ := Option.map_eq_some_iff.1 h
  simp only [Prod.mk.injEq] at hab
  obtain ⟨rfl, rfl⟩ := hab
  have hmark : mark.isPrefixOf b = true := fits_of_firstCut? hcut
  obtain ⟨rest, rfl⟩ := List.isPrefixOf_iff_prefix.1 hmark
  simpa using eq_append_of_firstCut? hcut

/-- What follows a non-empty mark is shorter than the text that holds the mark. -/
theorem length_lt_of_breakAt? {mark s before after : Text} (hmark : mark ≠ [])
    (h : breakAt? mark s = some (before, after)) : after.length < s.length := by
  have hpos : 0 < mark.length := List.length_pos_iff.2 hmark
  rw [eq_append_of_breakAt? h, List.length_append, List.length_append]
  omega

end Text

end SqlGuard
