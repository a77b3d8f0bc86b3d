/-
Line comments, removed in one walk.

A statement is rid of its line comments by dividing it into lines and cutting each at its
first marker.  They can also be swept out of the text as it stands, one kind of marker after
the other: the walk drops characters from a marker up to the next line feed, and knows nothing
of lines.  And a third scanner trims every line before it cuts it.

The first two give the same text (`dropLineComments_eq_sweep`), because a marker never reaches
across a line feed.  The third gives another text, without the blanks at the ends of the
lines.  That makes no difference to what is read off it: no block comment is opened or closed
by a blank, a blank at the end of a line stands next to a line feed, which keeps apart what the
blank kept apart, and the gap in a filter has characters on both sides.  All this comes down to
words, since the two texts have the same ones.

Block comments are taken out of what is left, always the first one of the text and that one as
short as it can be.  `BlocksTaken` says so without a search for markers, and `blocksTaken_iff`
that this is what is done.
-/
import SqlGuard.Proofs.Statement.Block
import SqlGuard.Proofs.Statement.Grammar

namespace SqlGuard

open Text

/-! ### Sweeping a text -/

/-- A text without the tails of its lines, which start at a mark and end before the next line
feed.  The walk is in a tail or not. -/
def Text.eraseTails (mark s : Text) : Text :=
  walk false s
where
  /-- Walk on over a text, being in a tail or not. -/
  walk (erasing : Bool) : Text → Text
    | [] => []
    | c :: rest =>
      if c == '\n' then c :: walk false rest
      else if erasing || mark.isPrefixOf (c :: rest) then walk true rest
      else c :: walk false rest

/-- A text swept for one marker after the other. -/
def sweep (s : Text) : Text :=
  Marker.all.foldl (fun text m => eraseTails m.text text) s

section Walk

variable {mark l v : Text}

-- Both walks are by induction on one line; `v` is what follows it, a line feed first.

/-- A tail ends with its line. -/
private theorem walk_true_append (hl : '\n' ∉ l) (hv : ∀ c ∈ v.head?, c = '\n') :
    eraseTails.walk mark true (l ++ v) = eraseTails.walk mark false v := by
  induction l with
  | nil =>
      cases v with
      | nil => rfl
      | cons c v =>
          obtain rfl : c = '\n' := hv c rfl
          rfl
  | cons c l ih =>
      simp only [List.mem_cons, not_or] at hl
      rw [List.cons_append, eraseTails.walk, if_neg (by simpa using Ne.symm hl.1),
        if_pos (by simp), ih hl.2]

/-- A mark at the head of a line is one at the head of the text from there on. -/
private theorem isPrefixOf_append_of_break (hmark : IsMark mark) (hv : ∀ c ∈ v.head?, c = '\n') :
    mark.isPrefixOf (l ++ v) = mark.isPrefixOf l := by
  cases v with
  | nil => rw [List.append_nil]
  | cons c v =>
      obtain rfl : c = '\n' := hv c rfl
      exact isPrefixOf_append_seam (hmark.not_mem (by decide))

/-- **The walk takes each line up to its first mark.** -/
private theorem walk_false_append (hmark : IsMark mark) (hl : '\n' ∉ l)
    (hv : ∀ c ∈ v.head?, c = '\n') :
    eraseTails.walk mark false (l ++ v) = upTo mark l ++ eraseTails.walk mark false v := by
  induction l with
  | nil => rw [upTo_nil hmark.nonempty]; rfl
  | cons c l ih =>
      simp only [List.mem_cons, not_or] at hl
      have hstart := isPrefixOf_append_of_break (l := c :: l) hmark hv
      rw [List.cons_append] at hstart
      rw [List.cons_append, eraseTails.walk, if_neg (by simpa using Ne.symm hl.1), hstart,
        Bool.false_or, upTo_cons]
      by_cases hp : mark.isPrefixOf (c :: l) = true
      · rw [if_pos hp, if_pos hp, walk_true_append hl.2 hv]
        rfl
      · rw [if_neg hp, if_neg hp, ih hl.2]
        rfl

theorem eraseTails_unlines (hmark : IsMark mark) {ls : List Text} (h : ∀ l ∈ ls, '\n' ∉ l) :
    eraseTails mark (unlines ls) = unlines (ls.map (upTo mark)) := by
  induction ls with
  | nil => rfl
  | cons l ls ih =>
      obtain ⟨hl, hls⟩ := List.forall_mem_cons.1 h
      cases ls with
      | nil =>
          have hwalk := walk_false_append hmark hl (v := []) (by simp)
          rw [List.append_nil] at hwalk
          rw [unlines_singleton, List.map_singleton, unlines_singleton, eraseTails, hwalk]
          exact List.append_nil _
      | cons l' ls =>
          rw [List.map_cons, List.map_cons, unlines_cons_cons, unlines_cons_cons, eraseTails,
            walk_false_append hmark hl (by simp), ← List.map_cons, ← ih hls]
          rfl

end Walk

theorem eraseTails_eq {mark : Text} (hmark : IsMark mark) (s : Text) :
    eraseTails mark s = unlines (s.lines.map (upTo mark)) := by
  conv_lhs => rw [← unlines_lines s]
  exact eraseTails_unlines hmark fun l => feed_not_mem_of_mem_lines

/-- **Sweeping a text and cutting its lines give the same text.** -/
theorem dropLineComments_eq_sweep (s : Text) : dropLineComments s = sweep s := by
  have hfeed : ∀ l ∈ s.lines.map (upTo Marker.dashes.text), '\n' ∉ l := by
    intro l hl hc
    obtain ⟨line, hline, rfl⟩ := List.mem_map.1 hl
    exact feed_not_mem_of_mem_lines hline ((upTo_isPrefix _ line).subset hc)
  show dropLineComments s = eraseTails Marker.slashes.text (eraseTails Marker.dashes.text s)
  rw [eraseTails_eq Marker.dashes.isMark_text, eraseTails_unlines Marker.slashes.isMark_text hfeed,
    List.map_map]
  rfl

/-! ### Taking block comments out -/

/-- The first block comment of a text: none starts farther left, and of those that start there none
is shorter. -/
structure FirstBlock (s before inside rest : Text) : Prop where
  split : s = before ++ (blockOpen ++ (inside ++ (blockClose ++ rest)))
  leftmost : ∀ p q r, s = p ++ (blockOpen ++ (q ++ (blockClose ++ r))) → before.length ≤ p.length
  shortest : ∀ q r, s = before ++ (blockOpen ++ (q ++ (blockClose ++ r))) →
    inside.length ≤ q.length

/-- What is left of a text when its block comments are taken out: the first one, and then those of
the text behind it, until there are none. -/
inductive BlocksTaken : Text → Text → Prop
  | none {s : Text} (h : ∀ p q r, s ≠ p ++ (blockOpen ++ (q ++ (blockClose ++ r)))) :
      BlocksTaken s s
  | first {s before inside rest left : Text} (h : FirstBlock s before inside rest)
      (later : BlocksTaken rest left) : BlocksTaken s (before ++ left)

section FirstBlock

variable {s before opened inside rest : Text}

theorem firstBlock_of_breakAt? (hopen : breakAt? blockOpen s = some (before, opened))
    (hclose : breakAt? blockClose opened = some (inside, rest)) :
    FirstBlock s before inside rest where
  split := eq_append_of_block hopen hclose
  leftmost p q r hs := length_le_of_breakAt? hopen hs
  shortest q r hs := by
    have hsame := (eq_append_of_breakAt? hopen).symm.trans hs
    exact length_le_of_breakAt? hclose
      (List.append_cancel_left (List.append_cancel_left hsame))

/-- A text has one first block comment at most. -/
theorem FirstBlock.unique {before' inside' rest' : Text} (h : FirstBlock s before inside rest)
    (h' : FirstBlock s before' inside' rest') : before' = before ∧ rest' = rest := by
  have hstart : before'.length = before.length :=
    Nat.le_antisymm (h'.leftmost _ _ _ h.split) (h.leftmost _ _ _ h'.split)
  obtain ⟨rfl, hopened⟩ := List.append_inj (h'.split.symm.trans h.split) hstart
  have hlength : inside'.length = inside.length :=
    Nat.le_antisymm (h'.shortest _ _ h.split) (h.shortest _ _ h'.split)
  obtain ⟨-, hclosed⟩ := List.append_inj (List.append_cancel_left hopened) hlength
  exact ⟨rfl, List.append_cancel_left hclosed⟩

/-- A block comment anywhere means that the first opening is closed. -/
theorem exists_close_of_block {p q r : Text}
    (hs : s = p ++ (blockOpen ++ (q ++ (blockClose ++ r))))
    (hopen : breakAt? blockOpen s = some (before, opened)) :
    breakAt? blockClose opened ≠ none := by
  have hle := length_le_of_breakAt? hopen hs
  have hcut := eq_append_of_breakAt? hopen
  have htail : blockClose ++ r <:+ s := ⟨p ++ (blockOpen ++ q), by simp [hs]⟩
  have hopened : opened <:+ s := ⟨before ++ blockOpen, by simp [hcut]⟩
  have hlength : (blockClose ++ r).length ≤ opened.length := by
    have htotal := congrArg List.length (hcut.symm.trans hs)
    simp only [List.length_append] at htotal ⊢
    omega
  rw [Ne, breakAt?_eq_none_iff, not_not]
  exact (List.prefix_append _ _).isInfix.trans
    (List.suffix_of_suffix_length_le htail hopened hlength).isInfix

end FirstBlock

/-- **Dropping the block comments is taking them out one by one, each as far left as there is one
and as short as it can be.** -/
theorem blocksTaken_iff {s left : Text} : BlocksTaken s left ↔ left = dropBlockComments s := by
  constructor
  · intro h
    induction h with
    | @none s hnone =>
        rw [dropBlockComments_eq]
        cases hopen : breakAt? blockOpen s with
        | none => rfl
        | some cut =>
            obtain ⟨before, opened⟩ := cut
            cases hclose : breakAt? blockClose opened with
            | none => simp only [hclose]
            | some block => exact absurd (eq_append_of_block hopen hclose) (hnone _ _ _)
    | @first s before inside rest left hfirst _ ih =>
        cases hopen : breakAt? blockOpen s with
        | none =>
            refine absurd ⟨before, inside ++ (blockClose ++ rest), ?_⟩
              (breakAt?_eq_none_iff.1 hopen)
            rw [hfirst.split]
            simp
        | some cut =>
            obtain ⟨before', opened⟩ := cut
            cases hclose : breakAt? blockClose opened with
            | none => exact absurd hclose (exists_close_of_block hfirst.split hopen)
            | some block =>
                obtain ⟨rfl, hrest⟩ := hfirst.unique (firstBlock_of_breakAt? hopen hclose)
                rw [dropBlockComments_of_block hopen hclose, hrest, ih]
  · rintro rfl
    induction s using openBlock?.induct with
    | case1 s hopen =>
        rw [dropBlockComments_eq, hopen]
        refine .none fun p q r hs => breakAt?_eq_none_iff.1 hopen ⟨p, q ++ (blockClose ++ r), ?_⟩
        rw [hs, List.append_assoc]
    | case2 s before opened hopen hclose =>
        rw [dropBlockComments_eq, hopen]
        simp only [hclose]
        exact .none fun p q r hs => exists_close_of_block hs hopen hclose
    | case3 s before opened hopen inside rest hclose ih =>
        rw [dropBlockComments_of_block hopen hclose]
        exact .first (firstBlock_of_breakAt? hopen hclose) ih

/-! ### Trimming every line -/

/-- The words of a statement without its line comments are those of the code of its lines. -/
theorem words_dropLineComments_eq_codePart (s : Text) :
    (dropLineComments s).words = (unlines (s.lines.map codePart)).words := by
  rw [words_dropLineComments, words_unlines, List.flatMap_map]
  simp only [words_codePart]

/-- **The ways to be rid of line comments agree.**  The clean text is what is left of the swept
text without its block comments and with its words one space apart; it is the same when every
line is trimmed and cut instead; and the scanner that trims every line finds an active filter
exactly when some line of the swept text holds one. -/
theorem line_comment_removers_agree (s : Text) :
    clean s = (dropBlockComments (sweep s)).spaced ∧
      clean s = (dropBlockComments (unlines (s.lines.map codePart))).spaced ∧
      (hasActiveFilter s = true ↔ ∃ line ∈ (sweep s).lines, HoldsFilter (· ≠ ';') line) := by
  rw [← dropLineComments_eq_sweep]
  refine ⟨rfl, ?_, ?_⟩
  · exact spaced_congr (words_dropBlockComments_congr (words_dropLineComments_eq_codePart s))
  · rw [hasActiveFilter_iff, lines_dropLineComments]
    simp only [mentionsFilter_iff_holdsFilter, List.mem_map, exists_exists_and_eq_and]

-- The blanks around the line feed are kept by one way and dropped by the other.
example : sweep "SELECT\t//-- x\r\n  1 /*-- */\n2*/".toList = "SELECT\t\n  1 /*\n2*/".toList := by
  decide

end SqlGuard
