/-
Line comments.

A line is cut at its first marker, and it does not matter which marker is tried first or
whether the line was cut at one of them before: `cutMarkers_upTo`.  What is cut off never
depends on spacing, so the words that survive are known from the words of the line alone,
and the words that survive in a statement are those that survive in its lines.

A text that is read up to some point ends in code or in a line comment, and its last line
tells which (`endsInLineComment`).  Behind code the rest is read by itself; behind a comment
the rest of the line is lost.  The two theorems about appending say this, at a seam that no
marker can straddle.

A commented filter is found behind the first occurrence of one of the markers;
`exists_of_commentedFilter?` is the whole of what the extractor says about it.
-/
import SqlGuard.Proofs.Text.Words
import SqlGuard.Statement.Filter

namespace SqlGuard

open Text

/-! ### Markers -/

namespace Marker

theorem isMark_text (m : Marker) : IsMark m.text := by
  have hchar : isBlank m.char = false := by cases m <;> decide
  exact isMark_pair hchar hchar

theorem mem_all (m : Marker) : m ∈ all := by
  cases m <;> simp [all]

theorem char_dashes_ne : char dashes ≠ char slashes := by
  decide

/-- No blank makes a marker. -/
theorem ne_char_of_isBlank {c : Char} (hc : isBlank c = true) (m : Marker) : c ≠ m.char := by
  rintro rfl
  exact m.isMark_text.not_mem hc (by simp [text])

theorem ne_char_of_isAlpha {c : Char} (h : c.isAlpha = true) (m : Marker) : c ≠ m.char := by
  rintro rfl
  cases m <;> exact absurd h (by decide)

theorem isPrefixOf_cons_of_ne {m : Marker} {c : Char} (h : c ≠ m.char) (s : Text) :
    m.text.isPrefixOf (c :: s) = false := by
  simp [text, List.isPrefixOf, Ne.symm h]

end Marker

/-! ### Cutting a line -/

theorem cutMarkers_all (line : Text) :
    cutMarkers Marker.all line =
      upTo Marker.slashes.text (upTo Marker.dashes.text line) :=
  rfl

theorem cutMarkers_isPrefix (line : Text) : cutMarkers Marker.all line <+: line := by
  rw [cutMarkers_all]
  exact (upTo_isPrefix _ _).trans (upTo_isPrefix _ _)

theorem cutMarkers_all_comm (line : Text) :
    cutMarkers Marker.all line =
      upTo Marker.dashes.text (upTo Marker.slashes.text line) := by
  rw [cutMarkers_all]
  exact (upTo_comm Marker.char_dashes_ne line).symm

/-- No marker is left in a line that was cut. -/
theorem breakAt?_cutMarkers (m : Marker) (line : Text) :
    breakAt? m.text (cutMarkers Marker.all line) = none := by
  cases m with
  | dashes =>
      rw [cutMarkers_all_comm]
      exact breakAt?_upTo (Marker.isMark_text _).nonempty _
  | slashes =>
      rw [cutMarkers_all]
      exact breakAt?_upTo (Marker.isMark_text _).nonempty _

/-- A line that was cut at one marker is cut where the whole line is. -/
theorem cutMarkers_upTo (m : Marker) (line : Text) :
    cutMarkers Marker.all (upTo m.text line) = cutMarkers Marker.all line := by
  cases m with
  | dashes => rw [cutMarkers_all, upTo_upTo (Marker.isMark_text _).nonempty, ← cutMarkers_all]
  | slashes =>
      rw [cutMarkers_all_comm, upTo_upTo (Marker.isMark_text _).nonempty, ← cutMarkers_all_comm]

/-- Where no marker starts, the first character of a line stays. -/
theorem cutMarkers_cons {c : Char} {rest : Text}
    (h : ∀ m : Marker, m.text.isPrefixOf (c :: rest) = false) :
    cutMarkers Marker.all (c :: rest) = c :: cutMarkers Marker.all rest := by
  have hslashes : Marker.slashes.text.isPrefixOf (c :: upTo Marker.dashes.text rest) = false := by
    rw [Bool.eq_false_iff]
    intro hp
    have hlonger : c :: upTo Marker.dashes.text rest <+: c :: rest :=
      (List.prefix_cons_inj c).2 (upTo_isPrefix _ rest)
    have hmark := List.isPrefixOf_iff_prefix.2
      ((List.isPrefixOf_iff_prefix.1 hp).trans hlonger)
    rw [h .slashes] at hmark
    simp at hmark
  rw [cutMarkers_all, cutMarkers_all, upTo_cons, h .dashes, if_neg (by simp), upTo_cons, hslashes,
    if_neg (by simp)]

/-- Where one starts, nothing of the line is left. -/
theorem cutMarkers_of_isPrefixOf {m : Marker} {line : Text} (h : m.text.isPrefixOf line = true) :
    cutMarkers Marker.all line = [] := by
  have hcut : upTo m.text line = [] := by
    cases line with
    | nil => exact upTo_nil m.isMark_text.nonempty
    | cons c rest => rw [upTo_cons, if_pos h]
  rw [← cutMarkers_upTo m, hcut]
  rfl

theorem isCommentLine_iff {line : Text} :
    isCommentLine line = true ↔ ∃ m : Marker, m.text <+: line.trim := by
  unfold isCommentLine
  rw [List.any_eq_true]
  constructor
  · intro h
    obtain ⟨m, -, hp⟩ := h
    exact ⟨m, List.isPrefixOf_iff_prefix.1 hp⟩
  · intro h
    obtain ⟨m, hp⟩ := h
    exact ⟨m, m.mem_all, List.isPrefixOf_iff_prefix.2 hp⟩

/-- A line that starts with a marker has no code. -/
theorem codePart_of_isCommentLine {line : Text} (h : isCommentLine line = true) :
    codePart line = [] := by
  obtain ⟨m, hp⟩ := isCommentLine_iff.1 h
  exact cutMarkers_of_isPrefixOf (List.isPrefixOf_iff_prefix.2 hp)

section Seam

variable {u : Text} {c : Char}

/-- Behind code without a marker and a seam, the cut is made in what follows. -/
theorem cutMarkers_append_of_code (hc : ∀ m : Marker, c ∉ m.text)
    (hu : ∀ m : Marker, breakAt? m.text u = none) (v : Text) :
    cutMarkers Marker.all (u ++ c :: v) = u ++ c :: cutMarkers Marker.all v := by
  have hcut : ∀ (m : Marker) (w : Text), upTo m.text (u ++ c :: w) = u ++ c :: upTo m.text w :=
    fun m => upTo_append_of_none m.isMark_text.nonempty (hc m) (hu m)
  rw [cutMarkers_all, cutMarkers_all, hcut, hcut]

theorem cutMarkers_append (hc : isBlank c = true)
    (hu : ∀ m : Marker, breakAt? m.text u = none) (v : Text) :
    cutMarkers Marker.all (u ++ c :: v) = u ++ c :: cutMarkers Marker.all v :=
  cutMarkers_append_of_code (fun m => m.isMark_text.not_mem hc) hu v

/-- No marker starts in a gap. -/
theorem cutMarkers_blanks_append {b : Text} (hb : ∀ c ∈ b, isBlank c = true) (v : Text) :
    cutMarkers Marker.all (b ++ v) = b ++ cutMarkers Marker.all v := by
  induction b with
  | nil => rfl
  | cons c b ih =>
      have hstart : ∀ m : Marker, m.text.isPrefixOf (c :: (b ++ v)) = false := fun m =>
        isPrefixOf_cons_of_not_mem m.isMark_text.nonempty (m.isMark_text.not_mem (hb c (by simp))) _
      rw [List.cons_append, cutMarkers_cons hstart, ih fun d hd => hb d (List.mem_cons_of_mem _ hd)]
      rfl

/-- Behind a marker and a seam nothing is left. -/
theorem cutMarkers_append_of_marker (hc : ∀ m : Marker, c ∉ m.text) {m : Marker}
    (hu : breakAt? m.text u ≠ none) (v : Text) :
    cutMarkers Marker.all (u ++ c :: v) = cutMarkers Marker.all u := by
  obtain ⟨cut, hcut⟩ := Option.ne_none_iff_exists'.1 hu
  rw [← cutMarkers_upTo m (u ++ c :: v),
    upTo_append_of_some m.isMark_text.nonempty (hc m) hcut, cutMarkers_upTo]

end Seam

theorem cutMarkers_of_code {line : Text} (h : ∀ m : Marker, breakAt? m.text line = none) :
    cutMarkers Marker.all line = line := by
  rw [cutMarkers_all, upTo_eq_self (h .dashes), upTo_eq_self (h .slashes)]

/-! ### The first marker -/

/-- A marker on a line before which none starts, of whichever kind. -/
structure FirstMarker (line before : Text) (m : Marker) (comment : Text) : Prop where
  eq : line = before ++ (m.text ++ comment)
  first : ∀ (m' : Marker) (p q : Text), line = p ++ (m'.text ++ q) → before.length ≤ p.length

/-- A line that holds a marker has a first one. -/
theorem exists_firstMarker {line : Text} {m : Marker} (h : m.text <:+: line) :
    ∃ before m' comment, FirstMarker line before m' comment := by
  induction line with
  | nil => exact absurd (List.eq_nil_of_infix_nil h) m.isMark_text.nonempty
  | cons c rest ih =>
      by_cases hstart : ∃ m' : Marker, m'.text <+: c :: rest
      · obtain ⟨m', comment, heq⟩ := hstart
        exact ⟨[], m', comment, heq.symm, fun _ _ _ _ => Nat.zero_le _⟩
      · have hrest : m.text <:+: rest :=
          (List.infix_cons_iff.1 h).resolve_left fun hp => hstart ⟨m, hp⟩
        obtain ⟨before, m', comment, heq, hfirst⟩ := ih hrest
        refine ⟨c :: before, m', comment, by rw [heq]; rfl, ?_⟩
        intro m'' p q hpq
        cases p with
        | nil => exact absurd ⟨m'', q, hpq.symm⟩ hstart
        | cons d p => simpa using hfirst m'' p q (List.cons.inj hpq).2

/-- What stands behind any marker stands behind the first one. -/
theorem FirstMarker.suffix {line before comment a r : Text} {m m' : Marker}
    (h : FirstMarker line before m comment) (heq : line = a ++ (m'.text ++ r)) :
    r <:+ comment := by
  have hle := h.first m' a r heq
  have hr : r <:+ line := ⟨a ++ m'.text, by rw [heq, List.append_assoc]⟩
  have hcomment : comment <:+ line := ⟨before ++ m.text, by rw [h.eq, List.append_assoc]⟩
  -- All markers are of one length, so the one that starts first leaves more behind it.
  have hlen := congrArg List.length (heq.symm.trans h.eq)
  simp only [List.length_append, Marker.text, List.length_cons, List.length_nil] at hlen
  exact List.suffix_of_suffix_length_le hr hcomment (by omega)

/-! ### Reading on in a statement -/

theorem dropLineComments_of_not_mem {l : Text} (h : '\n' ∉ l) :
    dropLineComments l = cutMarkers Marker.all l := by
  unfold dropLineComments
  rw [lines_of_not_mem h, List.map_singleton, unlines_singleton]

@[simp]
theorem dropLineComments_nil : dropLineComments [] = [] :=
  dropLineComments_of_not_mem (by simp)

/-- A line feed ends a line comment. -/
theorem dropLineComments_append_feed (u v : Text) :
    dropLineComments (u ++ '\n' :: v) = dropLineComments u ++ '\n' :: dropLineComments v := by
  unfold dropLineComments
  rw [lines_append_feed, List.map_append, unlines_append]
  · simpa using lines_ne_nil u
  · simpa using lines_ne_nil v

/-- So does the end of a text, wherever it is made. -/
theorem dropLineComments_append_of_break {v : Text} (hv : ∀ c ∈ v.head?, c = '\n') (u : Text) :
    dropLineComments (u ++ v) = dropLineComments u ++ dropLineComments v := by
  cases v with
  | nil => simp
  | cons c v =>
      obtain rfl : c = '\n' := hv c rfl
      have hfront := dropLineComments_append_feed [] v
      rw [List.nil_append, dropLineComments_nil, List.nil_append] at hfront
      rw [dropLineComments_append_feed, hfront]

/-- A mark stands on one line. -/
theorem breakAt?_unlines_eq_none_iff {mark : Text} (hmark : IsMark mark) {ls : List Text} :
    breakAt? mark (unlines ls) = none ↔ ∀ l ∈ ls, breakAt? mark l = none := by
  induction ls with
  | nil => simp [unlines, breakAt?_nil hmark.nonempty]
  | cons l ls ih =>
      cases ls with
      | nil => simp
      | cons l' ls =>
          have hseam := breakAt?_append hmark.nonempty
            (hmark.not_mem (by decide : isBlank '\n' = true)) l (unlines (l' :: ls))
          rw [List.forall_mem_cons, ← ih, unlines_cons_cons, hseam]
          cases breakAt? mark l with
          | none => simp
          | some cut => simp

/-- So none is made where a line ends. -/
theorem breakAt?_append_of_break {mark u v : Text} (hmark : IsMark mark)
    (hbreak : ∀ c ∈ v.head?, c = '\n') (hu : breakAt? mark u = none)
    (hv : breakAt? mark v = none) : breakAt? mark (u ++ v) = none := by
  cases v with
  | nil => simpa using hu
  | cons c v =>
      obtain rfl : c = '\n' := hbreak c rfl
      have hfeed : '\n' ∉ mark := hmark.not_mem (by decide)
      have hrest : breakAt? mark v = none := by
        rw [breakAt?_cons_of_not_mem hmark.nonempty hfeed] at hv
        simpa using hv
      rw [breakAt?_append hmark.nonempty hfeed, hu, hrest]
      rfl

/-- Dropping line comments brings no mark about. -/
theorem breakAt?_dropLineComments {mark s : Text} (hmark : IsMark mark)
    (h : breakAt? mark s = none) : breakAt? mark (dropLineComments s) = none := by
  rw [← unlines_lines s, breakAt?_unlines_eq_none_iff hmark] at h
  unfold dropLineComments
  rw [breakAt?_unlines_eq_none_iff hmark]
  intro l hl
  obtain ⟨line, hline, rfl⟩ := List.mem_map.1 hl
  have hnot := breakAt?_eq_none_iff.1 (h line hline)
  rw [breakAt?_eq_none_iff]
  intro hmem
  exact hnot (hmem.trans (cutMarkers_isPrefix line).isInfix)

/-- What stands in a text without its line comments stood in the text. -/
theorem infix_of_infix_dropLineComments {mark s : Text} (hmark : IsMark mark)
    (h : mark <:+: dropLineComments s) : mark <:+: s := by
  by_contra hs
  exact breakAt?_eq_none_iff.1 (breakAt?_dropLineComments hmark (breakAt?_eq_none_iff.2 hs)) h

/-- No marker is left in a text without its line comments. -/
theorem not_marker_infix_dropLineComments (m : Marker) (s : Text) :
    ¬ m.text <:+: dropLineComments s := by
  refine breakAt?_eq_none_iff.1 ?_
  unfold dropLineComments
  rw [breakAt?_unlines_eq_none_iff m.isMark_text]
  intro l hl
  obtain ⟨line, -, rfl⟩ := List.mem_map.1 hl
  exact breakAt?_cutMarkers m line

/-- Whether a text ends inside a line comment: its last line holds a marker. -/
def endsInLineComment (s : Text) : Bool :=
  s.lines.getLast?.any fun line => Marker.all.any fun m => mentions m.text line

theorem endsInLineComment_append_feed (u v : Text) :
    endsInLineComment (u ++ '\n' :: v) = endsInLineComment v := by
  unfold endsInLineComment
  rw [lines_append_feed, List.getLast?_append_of_ne_nil _ (lines_ne_nil v)]

theorem endsInLineComment_of_not_mem {l : Text} (h : '\n' ∉ l) :
    endsInLineComment l = true ↔ ∃ m : Marker, breakAt? m.text l ≠ none := by
  have hmark : ∀ m : Marker, mentions m.text l = true ↔ breakAt? m.text l ≠ none := by
    intro m
    rw [mentions_iff, Ne, breakAt?_eq_none_iff, not_not]
  unfold endsInLineComment
  rw [lines_of_not_mem h]
  simp only [List.getLast?_singleton, Option.any_some, List.any_eq_true, hmark]
  constructor
  · rintro ⟨m, -, hm⟩
    exact ⟨m, hm⟩
  · rintro ⟨m, hm⟩
    exact ⟨m, m.mem_all, hm⟩

theorem endsInLineComment_of_unmarked {s : Text} (h : ∀ m : Marker, ¬ m.text <:+: s) :
    endsInLineComment s = false := by
  have hline : ∀ l : Text, '\n' ∉ l → (∀ m : Marker, ¬ m.text <:+: l) →
      endsInLineComment l = false := by
    intro l hl hmark
    rw [Bool.eq_false_iff, Ne, endsInLineComment_of_not_mem hl]
    rintro ⟨m, hm⟩
    exact hm (breakAt?_eq_none_iff.2 (hmark m))
  rcases one_line_or_append s with hs | ⟨u, l, rfl, hl⟩
  · exact hline s hs h
  · rw [endsInLineComment_append_feed]
    refine hline l hl fun m hm => h m (hm.trans ?_)
    exact ⟨u ++ ['\n'], [], by simp⟩

/-- The text from the end of its first line on. -/
def behindFirstLine (s : Text) : Text :=
  s.dropWhile (· != '\n')

theorem head?_behindFirstLine (s : Text) : ∀ c ∈ (behindFirstLine s).head?, c = '\n' := by
  intro c hc
  have hhead := List.head?_dropWhile_not (· != '\n') s
  rw [show (s.dropWhile (· != '\n')).head? = some c from hc] at hhead
  simpa using hhead

/-- The first line of a text can be read apart from the others. -/
theorem dropLineComments_eq_append {f : Text} (hf : '\n' ∉ f) (s : Text) :
    dropLineComments (f ++ behindFirstLine s) =
      cutMarkers Marker.all f ++ dropLineComments (behindFirstLine s) := by
  rw [dropLineComments_append_of_break (head?_behindFirstLine s), dropLineComments_of_not_mem hf]

theorem exists_first_line (s : Text) : ∃ f, '\n' ∉ f ∧ s = f ++ behindFirstLine s := by
  refine ⟨s.takeWhile (· != '\n'), ?_, List.takeWhile_append_dropWhile.symm⟩
  intro hc
  simpa using List.mem_takeWhile_imp hc

/-- Where no marker starts, the first character of a statement stays. -/
theorem dropLineComments_cons {c : Char} {s : Text}
    (h : ∀ m : Marker, m.text.isPrefixOf (c :: s) = false) :
    dropLineComments (c :: s) = c :: dropLineComments s := by
  by_cases hfeed : c = '\n'
  · rw [hfeed]
    exact dropLineComments_append_feed [] s
  · obtain ⟨f, hf, hs⟩ := exists_first_line s
    have hline : ∀ m : Marker, m.text.isPrefixOf (c :: f) = false := by
      intro m
      have hm := h m
      rw [Bool.eq_false_iff, Ne, List.isPrefixOf_iff_prefix] at hm ⊢
      intro hp
      rw [hs] at hm
      exact hm (hp.trans (List.prefix_append (c :: f) _))
    have hlf : '\n' ∉ c :: f := by simp [hf, Ne.symm hfeed]
    rw [hs, ← List.cons_append, dropLineComments_eq_append hlf, dropLineComments_eq_append hf,
      cutMarkers_cons hline]
    rfl

section Seam

variable {u : Text} {c : Char}

/-- Only the last line of a text matters to what follows it. -/
private theorem dropLineComments_append_last {p l v w : Text}
    (h : dropLineComments (l ++ v) = dropLineComments l ++ w) :
    dropLineComments ((p ++ '\n' :: l) ++ v) = dropLineComments (p ++ '\n' :: l) ++ w := by
  rw [List.append_assoc, List.cons_append, dropLineComments_append_feed,
    dropLineComments_append_feed, h]
  simp

/-- **Behind a text that ends in code the rest is read by itself.** -/
theorem dropLineComments_append_of_code (hfeed : c ≠ '\n') (hc : ∀ m : Marker, c ∉ m.text)
    (h : endsInLineComment u = false) (v : Text) :
    dropLineComments (u ++ c :: v) = dropLineComments u ++ c :: dropLineComments v := by
  have hline : ∀ l : Text, '\n' ∉ l → endsInLineComment l = false →
      dropLineComments (l ++ c :: v) = dropLineComments l ++ c :: dropLineComments v := by
    intro l hl hcode
    obtain ⟨f, hf, hv⟩ := exists_first_line v
    have hmark : ∀ m : Marker, breakAt? m.text l = none := by
      intro m
      by_contra hm
      rw [(endsInLineComment_of_not_mem hl).2 ⟨m, hm⟩] at hcode
      simp at hcode
    have hlf : '\n' ∉ l ++ c :: f := by simp [hl, hf, hfeed.symm]
    rw [hv, ← List.cons_append, ← List.append_assoc, dropLineComments_eq_append hlf,
      dropLineComments_eq_append hf, cutMarkers_append_of_code hc hmark,
      dropLineComments_of_not_mem hl, cutMarkers_of_code hmark]
    simp
  rcases one_line_or_append u with hu | ⟨p, l, rfl, hl⟩
  · exact hline u hu h
  · rw [endsInLineComment_append_feed] at h
    exact dropLineComments_append_last (hline l hl h)

/-- **Behind a text that ends in a line comment the rest of the line is comment.** -/
theorem dropLineComments_append_of_comment (hfeed : c ≠ '\n') (hc : ∀ m : Marker, c ∉ m.text)
    (h : endsInLineComment u = true) (v : Text) :
    dropLineComments (u ++ c :: v) =
      dropLineComments u ++ dropLineComments (behindFirstLine v) := by
  have hline : ∀ l : Text, '\n' ∉ l → endsInLineComment l = true →
      dropLineComments (l ++ c :: v) =
        dropLineComments l ++ dropLineComments (behindFirstLine v) := by
    intro l hl hcomment
    obtain ⟨f, hf, hv⟩ := exists_first_line v
    obtain ⟨m, hm⟩ := (endsInLineComment_of_not_mem hl).1 hcomment
    have hlf : '\n' ∉ l ++ c :: f := by simp [hl, hf, hfeed.symm]
    conv_lhs => rw [hv]
    rw [← List.cons_append, ← List.append_assoc, dropLineComments_eq_append hlf,
      cutMarkers_append_of_marker hc hm, dropLineComments_of_not_mem hl]
  rcases one_line_or_append u with hu | ⟨p, l, rfl, hl⟩
  · exact hline u hu h
  · rw [endsInLineComment_append_feed] at h
    exact dropLineComments_append_last (hline l hl h)

end Seam

/-! ### Words that survive -/

/-- The words that a cut leaves depend on the words of the line only. -/
theorem words_cutMarkers_congr {s t : Text} (h : s.words = t.words) :
    (cutMarkers Marker.all s).words = (cutMarkers Marker.all t).words := by
  rw [cutMarkers_all, cutMarkers_all]
  exact words_upTo_congr (Marker.isMark_text _) (words_upTo_congr (Marker.isMark_text _) h)

theorem words_codePart (line : Text) :
    (codePart line).words = (cutMarkers Marker.all line).words :=
  words_cutMarkers_congr (words_trim line)

/-- What survives in a statement is what survives in its lines. -/
theorem words_dropLineComments (s : Text) :
    (dropLineComments s).words = s.lines.flatMap fun l => (cutMarkers Marker.all l).words := by
  unfold dropLineComments
  rw [words_unlines, List.flatMap_map]

/-- The same of lines that are joined; there need not be any. -/
theorem words_dropLineComments_unlines {ls : List Text} (h : ∀ l ∈ ls, '\n' ∉ l) :
    (dropLineComments (unlines ls)).words =
      ls.flatMap fun l => (cutMarkers Marker.all l).words := by
  rw [words_dropLineComments]
  cases ls with
  | nil => rfl
  | cons l ls => rw [lines_unlines (by simp) h]

/-! ### The filter that is found -/

/-- What the extractor says: the line it is on, the marker, and the comment behind it. -/
theorem exists_of_commentedFilter? {s : Text} {found : CommentedFilter}
    (h : commentedFilter? s = some found) :
    ∃ line m comment, s.lines[found.line]? = some line ∧
      breakAt? (Marker.text m) line = some (found.before, comment) ∧
      found.clause = comment.trim ∧ "WHERE".toList.isPrefixOf found.clause.upper = true := by
  obtain ⟨⟨line, number⟩, hmem, hfound⟩ := List.exists_of_findSome?_eq_some h
  obtain ⟨⟨before, clause⟩, hclause, heq⟩ := Option.map_eq_some_iff.1 hfound
  obtain ⟨m, -, hm⟩ := List.exists_of_findSome?_eq_some hclause
  simp only at heq
  subst heq
  unfold Marker.filterClause? at hm
  cases hcut : breakAt? m.text line with
  | none => rw [hcut] at hm; simp at hm
  | some cut =>
      rw [hcut] at hm
      by_cases hwhere : "WHERE".toList.isPrefixOf cut.2.trim.upper = true
      · simp only [hwhere, if_true, Option.some.injEq, Prod.mk.injEq] at hm
        obtain ⟨rfl, rfl⟩ := hm
        exact ⟨line, m, cut.2, List.mk_mem_zipIdx_iff_getElem?.1 hmem, hcut, rfl, hwhere⟩
      · simp only [hwhere] at hm
        simp at hm

end SqlGuard
