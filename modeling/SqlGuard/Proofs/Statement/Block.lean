/-
Block comments, and the kind of a statement.

A text read up to some point is either outside all block comments or inside one that is
open; `openBlock?` tells which.  It decides what the rest of the text means.  Behind a
text without an open block the rest is read by itself; behind an open one everything is
comment until the block is closed, and if it never is, there was no comment at all.  The
two theorems about appending say this, at a seam that no marker can straddle.

What is left of a text can be read backwards, too: every place in it comes from a place of
the text that lies outside the comments (`exists_place_of_dropBlockComments`).

Line comments go first and block comments after them (`dropComments`).  A whole comment at the
head of a text can be taken away by itself: a line comment leaves its line feed, a block comment
nothing, as long as its closing survives the first pass.

Block comments are removed without regard to spacing.  So the kind of a statement, which
is the first word left when all comments are gone, depends only on the words that remain
when its line comments are dropped: `kind_congr`.
-/
import SqlGuard.Proofs.Statement.Comment
import SqlGuard.Proofs.Text.Upper

namespace SqlGuard

open Text

/-! ### Opening and closing -/

theorem isMark_blockOpen : IsMark blockOpen :=
  isMark_pair (by decide) (by decide)

theorem isMark_blockClose : IsMark blockClose :=
  isMark_pair (by decide) (by decide)

/-- The block that a text leaves open: the text outside comments before it, and what it holds
so far. -/
def openBlock? (s : Text) : Option (Text × Text) :=
  match _hopen : breakAt? blockOpen s with
  | none => none
  | some (before, opened) =>
    match _hclose : breakAt? blockClose opened with
    | none => some (before, opened)
    | some (_, rest) => (openBlock? rest).map fun block => (before ++ block.1, block.2)
termination_by s.length
decreasing_by
  have h₁ := length_lt_of_breakAt? (by simp [blockOpen]) _hopen
  have h₂ := length_lt_of_breakAt? (by simp [blockClose]) _hclose
  omega

/-! ### Removing the blocks of a text -/

private theorem outsideBlocks_kept (kept : List Text) (s : Text) :
    outsideBlocks kept s = outsideBlocks [] s ++ kept := by
  induction hn : s.length using Nat.strong_induction_on generalizing kept s with
  | _ n ih =>
      rw [outsideBlocks, outsideBlocks.eq_def []]
      split
      · rfl
      · rename_i before opened hopen
        split
        · rfl
        · rename_i inside rest hclose
          have h₁ := length_lt_of_breakAt? isMark_blockOpen.nonempty hopen
          have h₂ := length_lt_of_breakAt? isMark_blockClose.nonempty hclose
          rw [ih rest.length (by omega) (before :: kept) rest rfl,
            ih rest.length (by omega) [before] rest rfl]
          simp

/-- What is left of a text is what precedes its first block, and what is left of the text
behind it. -/
theorem dropBlockComments_eq (s : Text) :
    dropBlockComments s =
      match breakAt? blockOpen s with
      | none => s
      | some (before, opened) =>
        match breakAt? blockClose opened with
        | none => s
        | some (_, rest) => before ++ dropBlockComments rest := by
  unfold dropBlockComments
  rw [outsideBlocks]
  split
  · rename_i hopen
    simp [hopen]
  · rename_i before opened hopen
    split
    · rename_i hclose
      simp [hopen, hclose]
    · rename_i inside rest hclose
      rw [outsideBlocks_kept]
      simp [hopen, hclose]

theorem openBlock?_eq (s : Text) :
    openBlock? s =
      match breakAt? blockOpen s with
      | none => none
      | some (before, opened) =>
        match breakAt? blockClose opened with
        | none => some (before, opened)
        | some (_, rest) => (openBlock? rest).map fun block => (before ++ block.1, block.2) := by
  rw [openBlock?]
  split
  · rename_i hopen
    simp [hopen]
  · rename_i before opened hopen
    split
    · rename_i hclose
      simp [hopen, hclose]
    · rename_i inside rest hclose
      simp [hopen, hclose]

@[simp]
theorem dropBlockComments_nil : dropBlockComments [] = [] := by
  rw [dropBlockComments_eq, breakAt?_nil isMark_blockOpen.nonempty]

theorem dropBlockComments_cons {c : Char} (hc : c ≠ '/') (s : Text) :
    dropBlockComments (c :: s) = c :: dropBlockComments s := by
  have hp : blockOpen.isPrefixOf (c :: s) = false := by
    simp [blockOpen, List.isPrefixOf, Ne.symm hc]
  rw [dropBlockComments_eq, breakAt?_cons, hp, if_neg (by simp), dropBlockComments_eq s]
  cases breakAt? blockOpen s with
  | none => rfl
  | some cut =>
      simp only [Option.map_some]
      cases breakAt? blockClose cut.2 with
      | none => rfl
      | some block => rfl

/-- The first block comment of a text is left out. -/
theorem dropBlockComments_append_block {before body : Text}
    (hbefore : breakAt? blockOpen before = none) (hbody : breakAt? blockClose body = none)
    (r : Text) :
    dropBlockComments (before ++ (blockOpen ++ (body ++ (blockClose ++ r)))) =
      before ++ dropBlockComments r := by
  have hopen : breakAt? blockOpen (before ++ (blockOpen ++ (body ++ (blockClose ++ r)))) =
      some (before, body ++ (blockClose ++ r)) := breakAt?_append_pair (by decide) hbefore _
  have hclose : breakAt? blockClose (body ++ (blockClose ++ r)) = some (body, r) :=
    breakAt?_append_pair (by decide) hbody r
  rw [dropBlockComments_eq, hopen]
  simp only [hclose]

section FirstBlock

variable {s before opened inside rest : Text}

/-- A text is what precedes its first block comment, the comment, and what follows it. -/
theorem eq_append_of_block (hopen : breakAt? blockOpen s = some (before, opened))
    (hclose : breakAt? blockClose opened = some (inside, rest)) :
    s = before ++ (blockOpen ++ (inside ++ (blockClose ++ rest))) := by
  rw [eq_append_of_breakAt? hopen, eq_append_of_breakAt? hclose]

theorem dropBlockComments_of_block (hopen : breakAt? blockOpen s = some (before, opened))
    (hclose : breakAt? blockClose opened = some (inside, rest)) :
    dropBlockComments s = before ++ dropBlockComments rest := by
  rw [dropBlockComments_eq, hopen]
  simp only [hclose]

end FirstBlock

/-- A block that is never closed is text like any other. -/
theorem dropBlockComments_of_open {s live body : Text} (h : openBlock? s = some (live, body)) :
    dropBlockComments s = live ++ (blockOpen ++ body) := by
  induction s using openBlock?.induct generalizing live with
  | case1 s hopen => rw [openBlock?_eq, hopen] at h; simp at h
  | case2 s before opened hopen hclose =>
      rw [openBlock?_eq, hopen] at h
      simp only [hclose, Option.some.injEq, Prod.mk.injEq] at h
      obtain ⟨rfl, rfl⟩ := h
      rw [dropBlockComments_eq, hopen]
      simp only [hclose]
      exact eq_append_of_breakAt? hopen
  | case3 s before opened hopen inside rest hclose ih =>
      rw [openBlock?_eq, hopen] at h
      simp only [hclose] at h
      obtain ⟨⟨live', body'⟩, hrest, heq⟩ := Option.map_eq_some_iff.1 h
      simp only [Prod.mk.injEq] at heq
      obtain ⟨rfl, rfl⟩ := heq
      rw [dropBlockComments_of_block hopen hclose, ih hrest, List.append_assoc]

/-! ### Places outside the blocks -/

/-- Whether no block of a text is ever closed, so that the text has no block comment. -/
def Unblocked (s : Text) : Prop :=
  ∀ p q, s = p ++ (blockOpen ++ q) → ¬ blockClose <:+: q

theorem Unblocked.dropBlockComments_eq {s : Text} (h : Unblocked s) : dropBlockComments s = s := by
  rw [SqlGuard.dropBlockComments_eq]
  cases hopen : breakAt? blockOpen s with
  | none => rfl
  | some cut =>
      have hclose := breakAt?_eq_none_iff.2 (h cut.1 cut.2 (eq_append_of_breakAt? hopen))
      simp only [hclose]

theorem Unblocked.of_append {u v : Text} (h : Unblocked (u ++ v)) :
    Unblocked u ∧ Unblocked v := by
  constructor
  · rintro p q rfl hclosed
    exact h p (q ++ v) (by simp) (hclosed.trans (List.prefix_append q v).isInfix)
  · rintro p q rfl
    exact h (u ++ p) q (by simp)

theorem unblocked_of_unopened {s : Text} (h : breakAt? blockOpen s = none) : Unblocked s := by
  rintro p q rfl
  exact absurd ⟨p, q, List.append_assoc ..⟩ (breakAt?_eq_none_iff.1 h)

theorem unblocked_of_unclosed {s before opened : Text}
    (hopen : breakAt? blockOpen s = some (before, opened))
    (hclose : breakAt? blockClose opened = none) : Unblocked s := by
  intro p q hs hclosed
  -- Every opening is the first one or stands behind it.
  have hle := length_le_of_breakAt? hopen hs
  have hcut := eq_append_of_breakAt? hopen
  have hlen := congrArg List.length (hs.symm.trans hcut)
  simp only [List.length_append] at hlen
  have hq : q <:+ s := ⟨p ++ blockOpen, by simp [hs]⟩
  have hopened : opened <:+ s := ⟨before ++ blockOpen, by simp [hcut]⟩
  have hsuffix : q <:+ opened := List.suffix_of_suffix_length_le hq hopened (by omega)
  exact breakAt?_eq_none_iff.1 hclose (hclosed.trans hsuffix.isInfix)

/-- A text without block comments is left as it is, and so are its parts. -/
theorem Unblocked.exists_place {s u v : Text} (hs : Unblocked s)
    (h : dropBlockComments s = u ++ v) :
    ∃ before after, s = before ++ after ∧ dropBlockComments before = u ∧
      dropBlockComments after = v := by
  obtain rfl : s = u ++ v := hs.dropBlockComments_eq.symm.trans h
  exact ⟨u, v, rfl, hs.of_append.1.dropBlockComments_eq, hs.of_append.2.dropBlockComments_eq⟩

/-- **Every place in what is left of a text comes from a place of the text**, at which the
text can be divided and each part read by itself. -/
theorem exists_place_of_dropBlockComments {s u v : Text} (h : dropBlockComments s = u ++ v) :
    ∃ before after, s = before ++ after ∧ dropBlockComments before = u ∧
      dropBlockComments after = v := by
  induction s using openBlock?.induct generalizing u with
  | case1 s hopen => exact (unblocked_of_unopened hopen).exists_place h
  | case2 s before opened hopen hclose => exact (unblocked_of_unclosed hopen hclose).exists_place h
  | case3 s before opened hopen inside rest hclose ih =>
      have hbefore := breakAt?_before isMark_blockOpen.nonempty hopen
      have hinside := breakAt?_before isMark_blockClose.nonempty hclose
      have hs := eq_append_of_block hopen hclose
      rw [dropBlockComments_of_block hopen hclose] at h
      rcases List.append_eq_append_iff.1 h with ⟨a, rfl, hrest⟩ | ⟨a, rfl, rfl⟩
      · -- The place is behind the block.
        obtain ⟨x, y, rfl, hx, hy⟩ := ih hrest
        refine ⟨before ++ (blockOpen ++ (inside ++ (blockClose ++ x))), y, by simp [hs], ?_, hy⟩
        rw [dropBlockComments_append_block hbefore hinside, hx]
      · -- The place is before the block.
        have hu : Unblocked u ∧ Unblocked a := (unblocked_of_unopened hbefore).of_append
        have ha : breakAt? blockOpen a = none := by
          rw [breakAt?_eq_none_iff] at hbefore ⊢
          intro hmem
          exact hbefore (hmem.trans (List.suffix_append u a).isInfix)
        refine ⟨u, a ++ (blockOpen ++ (inside ++ (blockClose ++ rest))), by simp [hs],
          hu.1.dropBlockComments_eq, ?_⟩
        exact dropBlockComments_append_block ha hinside rest

/-! ### Reading on behind a seam -/

section Seam

variable {p : Text} {c : Char}

/-- **Behind a text without an open block the rest is read by itself.** -/
theorem dropBlockComments_append_of_closed (hc : isBlank c = true) (h : openBlock? p = none)
    (r : Text) :
    dropBlockComments (p ++ c :: r) = dropBlockComments p ++ c :: dropBlockComments r := by
  induction p using openBlock?.induct with
  | case1 p hopen =>
      rw [dropBlockComments_eq (p ++ c :: r), dropBlockComments_eq p, dropBlockComments_eq r,
        breakAt?_append isMark_blockOpen.nonempty (isMark_blockOpen.not_mem hc), hopen]
      cases breakAt? blockOpen r with
      | none => rfl
      | some cut =>
          simp only [Option.map_some]
          cases breakAt? blockClose cut.2 with
          | none => rfl
          | some block => simp
  | case2 p before opened hopen hclose =>
      rw [openBlock?_eq, hopen] at h
      simp [hclose] at h
  | case3 p before opened hopen inside rest hclose ih =>
      have hrest : openBlock? rest = none := by
        rw [openBlock?_eq, hopen] at h
        simpa [hclose] using h
      rw [dropBlockComments_eq (p ++ c :: r), dropBlockComments_eq p,
        breakAt?_append isMark_blockOpen.nonempty (isMark_blockOpen.not_mem hc), hopen]
      simp only [breakAt?_append isMark_blockClose.nonempty (isMark_blockClose.not_mem hc), hclose]
      rw [ih hrest, List.append_assoc]

/-- **Behind an open block everything is comment until it is closed.**  If it never is, it was
no comment. -/
theorem dropBlockComments_append_of_open {live body : Text} (hc : isBlank c = true)
    (h : openBlock? p = some (live, body)) (r : Text) :
    dropBlockComments (p ++ c :: r) =
      match breakAt? blockClose r with
      | none => live ++ (blockOpen ++ body) ++ c :: r
      | some (_, rest) => live ++ dropBlockComments rest := by
  induction p using openBlock?.induct generalizing live with
  | case1 p hopen => rw [openBlock?_eq, hopen] at h; simp at h
  | case2 p before opened hopen hclose =>
      rw [openBlock?_eq, hopen] at h
      simp only [hclose, Option.some.injEq, Prod.mk.injEq] at h
      obtain ⟨rfl, rfl⟩ := h
      rw [dropBlockComments_eq,
        breakAt?_append isMark_blockOpen.nonempty (isMark_blockOpen.not_mem hc), hopen]
      simp only [breakAt?_append isMark_blockClose.nonempty (isMark_blockClose.not_mem hc), hclose]
      cases breakAt? blockClose r with
      | none =>
          simp only [Option.map_none]
          rw [← eq_append_of_breakAt? hopen]
      | some cut => rfl
  | case3 p before opened hopen inside rest hclose ih =>
      rw [openBlock?_eq, hopen] at h
      simp only [hclose] at h
      obtain ⟨⟨live', body'⟩, hrest, heq⟩ := Option.map_eq_some_iff.1 h
      simp only [Prod.mk.injEq] at heq
      obtain ⟨rfl, rfl⟩ := heq
      rw [dropBlockComments_eq,
        breakAt?_append isMark_blockOpen.nonempty (isMark_blockOpen.not_mem hc), hopen]
      simp only [breakAt?_append isMark_blockClose.nonempty (isMark_blockClose.not_mem hc), hclose]
      rw [ih hrest]
      cases breakAt? blockClose r with
      | none => simp
      | some cut => simp

end Seam

/-! ### Spacing -/

theorem Text.Respaced.dropBlockComments {s t : Text} (h : Respaced s t) :
    Respaced (dropBlockComments s) (dropBlockComments t) := by
  induction s using openBlock?.induct generalizing t with
  | case1 s hopen =>
      rcases h.breakAt?_cases isMark_blockOpen with
        ⟨-, ht⟩ | ⟨x, y, hs, -⟩
      · rw [dropBlockComments_eq, dropBlockComments_eq t, hopen, ht]; exact h
      · rw [hopen] at hs; simp at hs
  | case2 s before opened hopen hclose =>
      rcases h.breakAt?_cases isMark_blockOpen with
        ⟨hs, -⟩ | ⟨x, y, hs, ht, -, hafter⟩
      · rw [hopen] at hs; simp at hs
      · obtain rfl : (before, opened) = x := Option.some.inj (hopen.symm.trans hs)
        rcases hafter.breakAt?_cases isMark_blockClose with
          ⟨-, hyc⟩ | ⟨x', y', hxc, -⟩
        · rw [dropBlockComments_eq, dropBlockComments_eq t, hopen, ht]
          simp only [hclose, hyc]
          exact h
        · rw [hclose] at hxc; simp at hxc
  | case3 s before opened hopen inside rest hclose ih =>
      rcases h.breakAt?_cases isMark_blockOpen with
        ⟨hs, -⟩ | ⟨x, y, hs, ht, hbefore, hafter⟩
      · rw [hopen] at hs; simp at hs
      · obtain rfl : (before, opened) = x := Option.some.inj (hopen.symm.trans hs)
        rcases hafter.breakAt?_cases isMark_blockClose with
          ⟨hxc, -⟩ | ⟨x', y', hxc, hyc, -, hrest⟩
        · rw [hclose] at hxc; simp at hxc
        · obtain rfl : (inside, rest) = x' := Option.some.inj (hclose.symm.trans hxc)
          rw [dropBlockComments_eq, dropBlockComments_eq t, hopen, ht]
          simp only [hclose, hyc]
          exact hbefore.append (ih hrest)

/-- The words outside block comments depend on the words of the text only. -/
theorem words_dropBlockComments_congr {s t : Text} (h : s.words = t.words) :
    (dropBlockComments s).words = (dropBlockComments t).words := by
  refine words_congr_of_respaced Respaced.dropBlockComments ?_ h
  intro s
  have hspace : isBlank ' ' = true := by decide
  rw [dropBlockComments_cons (by decide), words_cons_blank hspace]
  cases hopen : openBlock? s with
  | none =>
      rw [dropBlockComments_append_of_closed hspace hopen, dropBlockComments_nil,
        words_append_single hspace]
  | some block =>
      rw [dropBlockComments_append_of_open hspace hopen, breakAt?_nil isMark_blockClose.nonempty,
        dropBlockComments_of_open hopen]
      exact words_append_single hspace _

/-! ### All comments -/

/-- A text without its comments. -/
def dropComments (s : Text) : Text :=
  dropBlockComments (dropLineComments s)

@[simp]
theorem dropComments_nil : dropComments [] = [] := by
  rw [dropComments, dropLineComments_nil, dropBlockComments_nil]

/-- A character of which no marker is made stays, and what follows it is read by itself. -/
theorem dropComments_cons {c : Char} (hc : ∀ m : Marker, c ≠ m.char) (s : Text) :
    dropComments (c :: s) = c :: dropComments s := by
  rw [dropComments, dropLineComments_cons fun m => Marker.isPrefixOf_cons_of_ne (hc m) s,
    dropBlockComments_cons (hc .slashes)]
  rfl

theorem dropComments_append {w : Text} (hw : ∀ c ∈ w, ∀ m : Marker, c ≠ m.char) (s : Text) :
    dropComments (w ++ s) = w ++ dropComments s := by
  induction w with
  | nil => rfl
  | cons c w ih =>
      rw [List.cons_append, dropComments_cons (hw c (by simp)),
        ih fun d hd => hw d (List.mem_cons_of_mem _ hd)]
      rfl

/-- A line comment leaves its line feed behind. -/
theorem dropComments_line {body : Text} (hbody : '\n' ∉ body) (m : Marker) (s : Text) :
    dropComments (m.text ++ (body ++ '\n' :: s)) = '\n' :: dropComments s := by
  have hfeed : '\n' ∉ m.text ++ body := by
    simp [hbody, m.isMark_text.not_mem (by decide : isBlank '\n' = true)]
  have hstart : m.text.isPrefixOf (m.text ++ body) = true :=
    List.isPrefixOf_iff_prefix.2 (List.prefix_append _ _)
  rw [dropComments, ← List.append_assoc, dropLineComments_append_feed,
    dropLineComments_of_not_mem hfeed, cutMarkers_of_isPrefixOf hstart, List.nil_append,
    dropBlockComments_cons (by decide)]
  rfl

/-- The star of a block comment is a seam for line comments. -/
theorem Marker.star_not_mem_text (m : Marker) : '*' ∉ m.text := by
  cases m <;> decide

theorem dropLineComments_blockOpen (s : Text) :
    dropLineComments (blockOpen ++ s) = blockOpen ++ dropLineComments s := by
  have hopen : ∀ m : Marker, m.text.isPrefixOf ('/' :: '*' :: s) = false := by
    intro m
    cases m <;> rfl
  have hstar : ∀ m : Marker, m.text.isPrefixOf ('*' :: s) = false := by
    intro m
    cases m <;> rfl
  exact (dropLineComments_cons hopen).trans (congrArg _ (dropLineComments_cons hstar))

/-- A block comment whose body ends in code keeps its closing, unless the slash of the closing
is half of a marker. -/
theorem dropLineComments_block {body s : Text} (hcode : endsInLineComment body = false)
    (hs : s.head? ≠ some '/') :
    dropLineComments (blockOpen ++ (body ++ (blockClose ++ s))) =
      blockOpen ++ (dropLineComments body ++ (blockClose ++ dropLineComments s)) := by
  have hslash : ∀ m : Marker, m.text.isPrefixOf ('/' :: s) = false := by
    intro m
    cases s with
    | nil => cases m <;> rfl
    | cons c s =>
        have hc : c ≠ '/' := by simpa using hs
        cases m <;> simp [Marker.text, Marker.char, List.isPrefixOf, hc.symm]
  have hbody :=
    dropLineComments_append_of_code (by decide) Marker.star_not_mem_text hcode ('/' :: s)
  rw [dropLineComments_cons hslash] at hbody
  rw [dropLineComments_blockOpen]
  exact congrArg _ hbody

/-- It leaves nothing. -/
theorem dropComments_block {body s : Text} (hclose : ¬ blockClose <:+: body)
    (hcode : endsInLineComment body = false) (hs : s.head? ≠ some '/') :
    dropComments (blockOpen ++ (body ++ (blockClose ++ s))) = dropComments s := by
  have hkept : breakAt? blockClose (dropLineComments body) = none :=
    breakAt?_dropLineComments isMark_blockClose (breakAt?_eq_none_iff.2 hclose)
  rw [dropComments, dropLineComments_block hcode hs]
  exact dropBlockComments_append_block (breakAt?_nil isMark_blockOpen.nonempty) hkept _

/-! ### The first word -/

theorem leadingKeyword_append {x : Text} {c : Char} (hc : isBlank c = true)
    (hx : x.words ≠ []) (y : Text) : leadingKeyword (x ++ c :: y) = leadingKeyword x := by
  unfold leadingKeyword
  rw [words_append_blank hc]
  cases hw : x.words with
  | nil => exact absurd hw hx
  | cons w ws => rfl

theorem leadingKeyword_append_of_nil {x : Text} {c : Char} (hc : isBlank c = true)
    (hx : x.words = []) (y : Text) : leadingKeyword (x ++ c :: y) = leadingKeyword y := by
  unfold leadingKeyword
  rw [words_append_blank hc, hx, List.nil_append]

/-- The first word of a text is over before the text ends, or the text has no blank behind
its first word. -/
private theorem first_word_cases (x : Text) :
    (∃ (u : Text) (c : Char) (v : Text), x = u ++ c :: v ∧ isBlank c = true ∧ u.words ≠ []) ∨
      ∃ b u : Text, x = b ++ u ∧ (∀ c ∈ b, isBlank c = true) ∧ ∀ c ∈ u, isBlank c = false := by
  induction x with
  | nil => exact Or.inr ⟨[], [], rfl, by simp, by simp⟩
  | cons d x ih =>
      by_cases hd : isBlank d = true
      · rcases ih with ⟨u, c, v, rfl, hc, hu⟩ | ⟨b, u, rfl, hb, hu⟩
        · exact Or.inl ⟨d :: u, c, v, rfl, hc, by rwa [words_cons_blank hd]⟩
        · refine Or.inr ⟨d :: b, u, rfl, ?_, hu⟩
          intro c hc
          rcases List.mem_cons.1 hc with rfl | hcb
          · exact hd
          · exact hb c hcb
      · have hd' : isBlank d = false := by simpa using hd
        have hword : ∀ v : Text, words (d :: v) ≠ [] := fun v =>
          words_ne_nil_of_mem hd' List.mem_cons_self
        rcases ih with ⟨u, c, v, rfl, hc, -⟩ | ⟨b, u, rfl, hb, hu⟩
        · exact Or.inl ⟨d :: u, c, v, rfl, hc, hword u⟩
        · cases b with
          | nil =>
              refine Or.inr ⟨[], d :: u, rfl, by simp, ?_⟩
              intro c hc
              rcases List.mem_cons.1 hc with rfl | hcu
              · exact hd'
              · exact hu c hcu
          | cons c b => exact Or.inl ⟨[d], c, b ++ u, rfl, hb c (by simp), hword []⟩

/-- A keyword without a slash was over before the first slash, and stays what it was whatever
follows. -/
theorem leadingKeyword_of_slash {x y : Text}
    (h : '/' ∉ (leadingKeyword (x ++ '/' :: y)).toList) (z : Text) :
    leadingKeyword (x ++ z) = leadingKeyword (x ++ '/' :: y) := by
  rcases first_word_cases x with ⟨u, c, v, rfl, hc, hu⟩ | ⟨b, u, rfl, hb, hu⟩
  · rw [List.append_assoc, List.append_assoc, List.cons_append, List.cons_append,
      leadingKeyword_append hc hu, leadingKeyword_append hc hu]
  · -- Here the first word runs into the slash.
    exfalso
    apply h
    obtain ⟨w, ws, hword⟩ := words_solid_append hu (by decide : isBlank '/' = false) y
    unfold leadingKeyword
    rw [List.append_assoc, words_blanks_append hb, hword]
    simpa using mem_upper_of_fixed (by decide) (by simp : '/' ∈ u ++ '/' :: w)

/-- A keyword starts with the upper case of the first character. -/
theorem head?_leadingKeyword {c : Char} (hc : isBlank c = false) (y : Text) :
    (leadingKeyword (c :: y)).toList.head? = (upperChar c).head? := by
  obtain ⟨w, ws, hword⟩ := words_solid_append (u := []) (by simp) hc y
  rw [List.nil_append, List.nil_append] at hword
  unfold leadingKeyword
  rw [hword]
  obtain ⟨d, ds, hupper⟩ := List.exists_cons_of_ne_nil (upperChar_ne_nil c)
  simp [upper, hupper]

theorem leadingKeyword_ne {c : Char} {keyword : String} (hc : isBlank c = false)
    (h : (upperChar c).head? ≠ keyword.toList.head?) (y : Text) :
    leadingKeyword (c :: y) ≠ keyword := by
  intro heq
  rw [← heq, head?_leadingKeyword hc] at h
  exact h rfl

/-- A word that is over when a text begins is the keyword of both. -/
theorem leadingKeyword_of_word {w y : Text} (hne : w ≠ []) (hw : ∀ c ∈ w, isBlank c = false)
    (hy : ∀ c ∈ y.head?, isBlank c = true) : leadingKeyword (w ++ y) = String.ofList w.upper := by
  unfold leadingKeyword
  rw [words_append_of_break hne hw hy]

/-- One that is not over runs into the keyword of that text. -/
theorem leadingKeyword_append_solid {w : Text} {c : Char} (hw : ∀ c ∈ w, isBlank c = false)
    (hc : isBlank c = false) (y : Text) :
    leadingKeyword (w ++ c :: y) = String.ofList w.upper ++ leadingKeyword (c :: y) := by
  obtain ⟨v, vs, hword⟩ := words_solid_append (u := []) (by simp) hc y
  rw [List.nil_append, List.nil_append] at hword
  unfold leadingKeyword
  rw [words_append_of_solid hw hc, hword]
  simp [upper_append]

/-! ### The kind -/

theorem leadingKeyword_congr {s t : Text} (h : s.words = t.words) :
    leadingKeyword s = leadingKeyword t := by
  unfold leadingKeyword
  rw [h]

/-- The kind is the first word outside all comments. -/
theorem kind_eq (s : Text) : kind s = leadingKeyword (dropComments s) := by
  unfold kind clean
  exact leadingKeyword_congr (words_spaced _)

/-- **The kind depends on the words outside line comments only.** -/
theorem kind_congr {s t : Text} (h : (dropLineComments s).words = t.words) :
    kind s = leadingKeyword (dropBlockComments t) := by
  rw [kind_eq]
  exact leadingKeyword_congr (words_dropBlockComments_congr h)

end SqlGuard
