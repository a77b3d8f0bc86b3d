/-
Words, and texts that differ only in their spacing.

The scanners look for marks, and a mark holds no blank; so how wide a gap is, and whether
a space or a line feed makes it, changes nothing that they find.  `Respaced` states that
two texts differ in this way only.  It is kept by joining, by cutting at a mark and by
searching for one, each proved by a walk along the derivation.

A text between two spaces is a respacing of its words with one space behind each, so two
texts with the same words are respacings of each other up to their ends.  That is how
`words_upTo_congr` comes about: the words of what precedes a mark depend on nothing but
the words of the text.
-/
import SqlGuard.Proofs.Text.Lines
import SqlGuard.Proofs.Text.Search

namespace SqlGuard.Text

/-! ### Pieces between the characters of a class -/

section Pieces

variable {p : Char → Bool}

@[simp]
theorem pieces_nil : pieces p [] = [] := by
  simp [pieces]

/-- **Pieces end at a separator.**  All else about pieces follows from this equation. -/
theorem pieces_append_cons {c : Char} (hc : p c = true) (u v : Text) :
    pieces p (u ++ c :: v) = u.pieces p ++ v.pieces p := by
  unfold pieces
  rw [List.splitOnP_append_cons u v hc, List.filter_append]

theorem pieces_cons {c : Char} (hc : p c = true) (s : Text) : pieces p (c :: s) = s.pieces p := by
  simpa using pieces_append_cons hc [] s

theorem pieces_separators_append {b : Text} (hb : ∀ c ∈ b, p c = true) (s : Text) :
    pieces p (b ++ s) = s.pieces p := by
  induction b with
  | nil => rfl
  | cons c b ih =>
      rw [List.cons_append, pieces_cons (hb c (by simp))]
      exact ih fun d hd => hb d (List.mem_cons_of_mem _ hd)

/-- Characters none of which is a separator make one piece. -/
theorem pieces_of_solid {w : Text} (hne : w ≠ []) (h : ∀ c ∈ w, p c = false) :
    pieces p w = [w] := by
  unfold pieces
  rw [List.splitOnP_eq_singleton h]
  simp [hne]

/-- They are one by themselves where the text behind them is empty or starts with a separator. -/
theorem pieces_append_of_break {w y : Text} (hne : w ≠ []) (hw : ∀ c ∈ w, p c = false)
    (hy : ∀ c ∈ y.head?, p c = true) : pieces p (w ++ y) = w :: y.pieces p := by
  cases y with
  | nil => rw [List.append_nil, pieces_of_solid hne hw, pieces_nil]
  | cons c y =>
      have hc := hy c rfl
      rw [pieces_append_cons hc, pieces_of_solid hne hw, pieces_cons hc]
      rfl

/-- Pieces with a space between neighbours never give two spaces in a row: the piece between
them would be empty. -/
theorem not_double_intercalate {ws : List Text} (h : ∀ w ∈ ws, w ≠ [] ∧ ' ' ∉ w) :
    ¬ [' ', ' '] <:+: [' '].intercalate ws := by
  induction ws with
  | nil => simp
  | cons w ws ih =>
      obtain ⟨⟨-, hw⟩, hrest⟩ := List.forall_mem_cons.1 h
      cases ws with
      | nil =>
          rw [List.intercalate_singleton]
          exact fun hdouble => hw (hdouble.subset (by simp))
      | cons w' ws =>
          obtain ⟨hne, hw'⟩ := hrest w' (by simp)
          obtain ⟨c, w', rfl⟩ := List.exists_cons_of_ne_nil hne
          have hhead : ([' '].intercalate ((c :: w') :: ws)).head? = some c := by
            cases ws <;> simp [List.intercalate_cons_cons]
          rw [List.intercalate_cons_cons, List.append_assoc, List.singleton_append]
          intro hdouble
          rcases pair_infix_append hdouble with hfront | hback | ⟨hlast, -⟩
          · exact hw (hfront.subset (by simp))
          · rcases List.infix_cons_iff.1 hback with hstart | htail
            · have hnext :=
                List.singleton_prefix_iff_head?_eq_some.1 (List.cons_prefix_cons.1 hstart).2
              rw [hhead] at hnext
              exact hw' (by simp [Option.some.inj hnext])
            · exact ih hrest htail
          · exact hw (hlast.subset (by simp))

/-- Whether the only separators of a text are single spaces, none of them at an end. -/
structure SpaceParted (p : Char → Bool) (s : Text) : Prop where
  only : ∀ c ∈ s, p c = true → c = ' '
  single : ¬ [' ', ' '] <:+: s
  head : ∀ c ∈ s.head?, p c = false
  last : ∀ c ∈ s.getLast?, p c = false

/-- At a separator such a text goes on, and what follows is such a text again. -/
theorem SpaceParted.behind {c : Char} {u s : Text} (h : SpaceParted p (u ++ c :: s))
    (hc : p c = true) : c = ' ' ∧ u ≠ [] ∧ s ≠ [] ∧ SpaceParted p s := by
  have hspace : c = ' ' := h.only c (by simp) hc
  have hu : u ≠ [] := by
    rintro rfl
    rw [h.head c rfl] at hc
    simp at hc
  have hs : s ≠ [] := by
    rintro rfl
    rw [h.last c (by simp)] at hc
    simp at hc
  refine ⟨hspace, hu, hs, fun d hd => h.only d (by simp [hd]), ?_, ?_, ?_⟩
  · exact fun hdouble => h.single (hdouble.trans ⟨u ++ [c], [], by simp⟩)
  · intro d hd
    rw [Bool.eq_false_iff]
    intro hpd
    obtain ⟨rest, rfl⟩ := List.head?_eq_some_iff.1 hd
    -- A separator here would be a second space in a row.
    refine h.single ⟨u, rest, ?_⟩
    rw [hspace, h.only d (by simp) hpd]
    simp
  · intro d hd
    refine h.last d ?_
    rw [List.getLast?_append_of_ne_nil _ (by simp), List.getLast?_cons_of_ne_nil hs]
    exact hd

/-- **Pieces that stand one space apart are written as they stand.**  The walk carries the part
`u` of a piece that it has passed. -/
private theorem intercalate_pieces_append {u s : Text} (hu : ∀ c ∈ u, p c = false)
    (h : SpaceParted p (u ++ s)) : [' '].intercalate ((u ++ s).pieces p) = u ++ s := by
  induction s generalizing u with
  | nil =>
      by_cases hne : u = []
      · rw [hne]; rfl
      · rw [List.append_nil, pieces_of_solid hne hu, List.intercalate_singleton]
  | cons c s ih =>
      by_cases hc : p c = true
      · obtain ⟨rfl, hne, hs, hbehind⟩ := h.behind hc
        have hrest : [' '].intercalate (pieces p s) = s := ih (u := []) (by simp) hbehind
        obtain ⟨w, ws, hws⟩ : ∃ w ws, pieces p s = w :: ws := by
          refine List.exists_cons_of_ne_nil ?_
          intro hnil
          rw [hnil] at hrest
          exact hs hrest.symm
        rw [pieces_append_cons hc, pieces_of_solid hne hu, hws, List.singleton_append,
          List.intercalate_cons_cons, ← hws, hrest]
        simp
      · have hu' : ∀ d ∈ u ++ [c], p d = false := by
          intro d hd
          rcases List.mem_append.1 hd with hdu | hdc
          · exact hu d hdu
          · rw [List.mem_singleton.1 hdc]; simpa using hc
        simpa using ih hu' (by simpa using h)

theorem SpaceParted.intercalate_pieces {s : Text} (h : SpaceParted p s) :
    [' '].intercalate (s.pieces p) = s :=
  intercalate_pieces_append (u := []) (by simp) h

end Pieces

/-! ### Words -/

@[simp]
theorem words_nil : words [] = [] :=
  pieces_nil

theorem words_append_blank {c : Char} (hc : isBlank c = true) (u v : Text) :
    words (u ++ c :: v) = u.words ++ v.words :=
  pieces_append_cons hc u v

theorem words_cons_blank {c : Char} (hc : isBlank c = true) (s : Text) :
    words (c :: s) = s.words :=
  pieces_cons hc s

theorem words_append_single {c : Char} (hc : isBlank c = true) (s : Text) :
    words (s ++ [c]) = s.words := by
  simpa using words_append_blank hc s []

theorem words_blanks_append {b : Text} (hb : ∀ c ∈ b, isBlank c = true) (s : Text) :
    words (b ++ s) = s.words :=
  pieces_separators_append hb s

/-- Characters none of which is blank make one word. -/
theorem words_of_solid {w : Text} (hne : w ≠ []) (h : ∀ c ∈ w, isBlank c = false) :
    words w = [w] :=
  pieces_of_solid hne h

/-- A word is one by itself where the text behind it is empty or starts with a blank. -/
theorem words_append_of_break {w y : Text} (hne : w ≠ []) (hw : ∀ c ∈ w, isBlank c = false)
    (hy : ∀ c ∈ y.head?, isBlank c = true) : words (w ++ y) = w :: y.words :=
  pieces_append_of_break hne hw hy

/-- A character that is not blank, in front of a text that starts with none, belongs to its
first word. -/
theorem words_cons_solid {d c : Char} (hd : isBlank d = false) (hc : isBlank c = false) (s : Text) :
    words (d :: c :: s) = (words (c :: s)).modifyHead (d :: ·) := by
  obtain ⟨first, others, heq⟩ := List.exists_cons_of_ne_nil (List.splitOnP_ne_nil isBlank s)
  unfold words pieces
  rw [List.splitOnP_cons_eq_if_modifyHead, if_neg (by simp [hd]),
    List.splitOnP_cons_eq_if_modifyHead, if_neg (by simp [hc]), heq]
  rfl

theorem words_append_of_solid {u : Text} {c : Char} (hu : ∀ d ∈ u, isBlank d = false)
    (hc : isBlank c = false) (s : Text) :
    words (u ++ c :: s) = (words (c :: s)).modifyHead (u ++ ·) := by
  induction u with
  | nil => exact (congrFun List.modifyHead_id _).symm
  | cons d u ih =>
      obtain ⟨hd, hu⟩ := List.forall_mem_cons.1 hu
      have hstep : words (d :: (u ++ c :: s)) = (words (u ++ c :: s)).modifyHead (d :: ·) := by
        cases u with
        | nil => exact words_cons_solid hd hc s
        | cons e u => exact words_cons_solid hd (hu e (by simp)) (u ++ c :: s)
      rw [List.cons_append, hstep, ih hu, List.modifyHead_modifyHead]
      rfl

/-- Characters that are not blank start the first word, together with what follows them up
to a blank. -/
theorem words_solid_append {u : Text} {c : Char} (hu : ∀ d ∈ u, isBlank d = false)
    (hc : isBlank c = false) (s : Text) :
    ∃ w ws, words (u ++ c :: s) = (u ++ c :: w) :: ws := by
  obtain ⟨first, others, heq⟩ := List.exists_cons_of_ne_nil (List.splitOnP_ne_nil isBlank s)
  have hfirst : words (c :: s) = (c :: first) :: others.filter (!·.isEmpty) := by
    unfold words pieces
    rw [List.splitOnP_cons_eq_if_modifyHead, if_neg (by simp [hc]), heq]
    rfl
  rw [words_append_of_solid hu hc, hfirst]
  exact ⟨first, _, rfl⟩

theorem words_ne_nil_of_mem {c : Char} (hc : isBlank c = false) {s : Text} (h : c ∈ s) :
    s.words ≠ [] := by
  induction s with
  | nil => simp at h
  | cons d s ih =>
      by_cases hd : isBlank d = true
      · rcases List.mem_cons.1 h with rfl | hs
        · simp [hd] at hc
        · rw [words_cons_blank hd]
          exact ih hs
      · obtain ⟨w, ws, heq⟩ := words_solid_append (u := []) (by simp) (by simpa using hd) s
        rw [List.nil_append] at heq
        simp [heq]

/-- A word is not empty, and holds no blank. -/
theorem solid_of_mem_words {s w : Text} (h : w ∈ s.words) :
    w ≠ [] ∧ ∀ c ∈ w, isBlank c = false := by
  obtain ⟨hw, hne⟩ := List.mem_filter.1 h
  exact ⟨by simpa using hne, fun c hc => (mem_of_mem_splitOnP hw hc).2⟩

/-- The words of a text are what is left of it without its blanks. -/
theorem flatten_words (s : Text) : s.words.flatten = s.filter (!isBlank ·) := by
  unfold words pieces
  rw [List.flatten_filter_not_isEmpty]
  induction s with
  | nil => simp
  | cons c s ih =>
      rw [List.splitOnP_cons_eq_if_modifyHead]
      by_cases hc : isBlank c = true
      · rw [if_pos hc, List.filter_cons_of_neg (by simp [hc]), List.flatten_cons, ih]
        rfl
      · obtain ⟨first, others, heq⟩ := List.exists_cons_of_ne_nil (List.splitOnP_ne_nil isBlank s)
        rw [if_neg hc, List.filter_cons_of_pos (by simpa using hc), ← ih, heq]
        rfl

/-- Characters that are not blank stand on one side of a blank. -/
theorem solid_side_of_blank {c : Char} (hc : isBlank c = true) {w : Text} (hne : w ≠ [])
    (hw : ∀ d ∈ w, isBlank d = false) {x y u r : Text} (h : x ++ c :: y = u ++ (w ++ r)) :
    (∃ b, x = u ++ (w ++ b) ∧ r = b ++ c :: y) ∨ ∃ a, u = x ++ c :: a ∧ y = a ++ (w ++ r) := by
  have hcw : c ∉ w := by
    intro hmem
    rw [hw c hmem] at hc
    simp at hc
  rcases List.append_eq_append_iff.1 h with ⟨a, hu, hrest⟩ | ⟨a, hx, hrest⟩
  · cases a with
    | nil =>
        obtain ⟨d, w', rfl⟩ := List.exists_cons_of_ne_nil hne
        refine absurd ?_ hcw
        rw [(List.cons.inj hrest).1]
        exact List.mem_cons_self
    | cons d a =>
        obtain ⟨rfl, hy⟩ := List.cons.inj hrest
        exact Or.inr ⟨a, hu, hy⟩
  · rcases List.append_eq_append_iff.1 hrest with ⟨b, ha, hr⟩ | ⟨b, hwb, hb⟩
    · exact Or.inl ⟨b, by rw [hx, ha], hr⟩
    · cases b with
      | nil => exact Or.inl ⟨[], by rw [hx, hwb]; simp, hb.symm⟩
      | cons d b =>
          refine absurd ?_ hcw
          rw [hwb, (List.cons.inj hb).1]
          simp

/-- The words of texts with a blank between neighbours are the words of each. -/
theorem words_intercalate {c : Char} (hc : isBlank c = true) (ls : List Text) :
    words ([c].intercalate ls) = ls.flatMap words := by
  induction ls with
  | nil => simp
  | cons l ls ih =>
      cases ls with
      | nil => simp
      | cons l' ls =>
          rw [List.intercalate_cons_cons, List.append_assoc, List.singleton_append,
            words_append_blank hc, ih]
          simp

theorem words_unlines (ls : List Text) : (unlines ls).words = ls.flatMap words :=
  words_intercalate (by decide) ls

/-- Dividing a text at some of its blanks divides it between words.  The walk carries the
characters `u` that stand before the first piece. -/
private theorem flatMap_words_modifyHead {p : Char → Bool}
    (hp : ∀ c, p c = true → isBlank c = true) (u s : Text) :
    ((s.splitOnP p).modifyHead (u ++ ·)).flatMap words = words (u ++ s) := by
  induction s generalizing u with
  | nil => simp
  | cons c s ih =>
      rw [List.splitOnP_cons_eq_if_modifyHead]
      by_cases hc : p c = true
      · have hrest : (s.splitOnP p).flatMap words = words s := by
          have := ih []
          rwa [show (([] : Text) ++ ·) = id from rfl, List.modifyHead_id] at this
        rw [if_pos hc, words_append_blank (hp c hc), ← hrest]
        simp
      · rw [if_neg hc, List.modifyHead_modifyHead]
        have := ih (u ++ [c])
        simpa [Function.comp_def] using this

/-- Where an empty text counts for nothing, it can be left out. -/
theorem flatMap_filter_isEmpty {α : Type} {f : Text → List α} (hf : f [] = []) (ls : List Text) :
    (ls.filter (!·.isEmpty)).flatMap f = ls.flatMap f := by
  induction ls with
  | nil => rfl
  | cons l ls ih =>
      cases l with
      | nil => simpa [hf] using ih
      | cons c l => simp [ih]

/-- Writing one space for each run of some blanks keeps the words. -/
theorem words_intercalate_pieces {p : Char → Bool} (hp : ∀ c, p c = true → isBlank c = true)
    (s : Text) : words ([' '].intercalate (s.pieces p)) = s.words := by
  have hsplit := flatMap_words_modifyHead hp [] s
  rw [show (([] : Text) ++ ·) = id from rfl, List.modifyHead_id] at hsplit
  rw [words_intercalate (by decide), pieces, flatMap_filter_isEmpty words_nil]
  exact hsplit

@[simp]
theorem words_spaced (s : Text) : s.spaced.words = s.words :=
  words_intercalate_pieces (fun _ h => h) s

theorem spaced_congr {s t : Text} (h : s.words = t.words) : s.spaced = t.spaced := by
  unfold spaced
  rw [h]

@[simp]
theorem words_trim (s : Text) : s.trim.words = s.words := by
  have hleft : ∀ s : Text, s.trimLeft.words = s.words := by
    intro s
    induction s with
    | nil => rfl
    | cons c s ih =>
        by_cases hc : isBlank c = true
        · rw [words_cons_blank hc, ← ih]
          simp [trimLeft, hc]
        · simp [trimLeft, hc]
  have hright : ∀ s : Text, s.trimRight.words = s.words := by
    intro s
    induction s using List.reverseRecOn with
    | nil => rfl
    | append_singleton s c ih =>
        by_cases hc : isBlank c = true
        · rw [words_append_single hc, ← ih, trimRight_eq_rdropWhile,
            List.rdropWhile_concat_pos _ _ _ hc, trimRight_eq_rdropWhile]
        · rw [trimRight_eq_rdropWhile, List.rdropWhile_concat_neg _ _ _ hc]
  rw [trim, hright, hleft]

/-- Trimming takes nothing but blanks. -/
theorem mem_trim_of_mem {c : Char} (hc : isBlank c = false) {s : Text} (h : c ∈ s) :
    c ∈ s.trim := by
  have hink : c ∈ s.trim.words.flatten := by
    rw [words_trim, flatten_words]
    exact List.mem_filter.2 ⟨h, by simpa using hc⟩
  rw [flatten_words] at hink
  exact (List.mem_filter.1 hink).1

/-- A trimmed text starts with its first word. -/
theorem isPrefix_trim_of_words {s w : Text} {ws : List Text} (h : s.words = w :: ws) :
    w <+: s.trim := by
  have hsplit := List.takeWhile_append_dropWhile (p := (!isBlank ·)) (l := s.trim)
  have hsolid : ∀ c ∈ s.trim.takeWhile (!isBlank ·), isBlank c = false :=
    fun c hc => by simpa using List.mem_takeWhile_imp hc
  have hbreak : ∀ c ∈ (s.trim.dropWhile (!isBlank ·)).head?, isBlank c = true := by
    intro c hc
    have hhead := List.head?_dropWhile_not (!isBlank ·) s.trim
    rw [Option.mem_def.1 hc] at hhead
    simpa using hhead
  have hne : s.trim.takeWhile (!isBlank ·) ≠ [] := by
    intro hnil
    rw [hnil, List.nil_append] at hsplit
    rw [hsplit] at hbreak
    cases htrim : s.trim with
    | nil =>
        rw [← words_trim, htrim] at h
        simp at h
    | cons c r =>
        have hblank := hbreak c (by simp [htrim])
        rw [(bareEnds_trim s).1 c (by simp [htrim])] at hblank
        simp at hblank
  have hwords := words_append_of_break hne hsolid hbreak
  rw [hsplit, words_trim, h] at hwords
  rw [(List.cons.inj hwords).1]
  exact List.takeWhile_prefix _

/-- Whether characters that are not blank stand at the head of a trimmed text depends on its
words only. -/
theorem isPrefix_trim_congr {w s t : Text} (hw : ∀ c ∈ w, isBlank c = false)
    (h : s.words = t.words) (hs : w <+: s.trim) : w <+: t.trim := by
  rcases List.eq_nil_or_concat' w with rfl | ⟨u, c, rfl⟩
  · exact List.nil_prefix
  · obtain ⟨r, hr⟩ := hs
    obtain ⟨w', ws, hwords⟩ :=
      words_solid_append (u := u) (c := c) (fun d hd => hw d (by simp [hd])) (hw c (by simp)) r
    rw [List.append_assoc, List.singleton_append] at hr
    rw [hr, words_trim, h] at hwords
    refine List.IsPrefix.trans ⟨w', ?_⟩ (isPrefix_trim_of_words hwords)
    simp

/-! ### Respacing -/

/-- A run of blanks, one at least. -/
def IsGap (b : Text) : Prop :=
  b ≠ [] ∧ ∀ c ∈ b, isBlank c = true

theorem isGap_singleton {c : Char} (hc : isBlank c = true) : IsGap [c] :=
  ⟨by simp, by simpa using hc⟩

theorem IsGap.snoc {b : Text} {c : Char} (hb : IsGap b) (hc : isBlank c = true) :
    IsGap (b ++ [c]) := by
  refine ⟨by simp, ?_⟩
  intro d hd
  rcases List.mem_append.1 hd with hbd | hcd
  · exact hb.2 d hbd
  · rw [List.mem_singleton.1 hcd]; exact hc

theorem IsGap.reverse {b : Text} (hb : IsGap b) : IsGap b.reverse :=
  ⟨by simpa using hb.1, by simpa using hb.2⟩

/-- A gap ends the word before it. -/
theorem words_append_gap {b : Text} (hb : IsGap b) (u s : Text) :
    words (u ++ (b ++ s)) = u.words ++ s.words := by
  obtain ⟨hne, hblank⟩ := hb
  cases b with
  | nil => exact absurd rfl hne
  | cons c b =>
      rw [List.cons_append, words_append_blank (hblank c (by simp)),
        words_blanks_append fun d hd => hblank d (List.mem_cons_of_mem _ hd)]

/-- Two texts that differ in their gaps only. -/
inductive Respaced : Text → Text → Prop
  | nil : Respaced [] []
  | char (c : Char) {s t : Text} (h : Respaced s t) : Respaced (c :: s) (c :: t)
  | gap {b b' s t : Text} (hb : IsGap b) (hb' : IsGap b') (h : Respaced s t) :
      Respaced (b ++ s) (b' ++ t)

namespace Respaced

variable {s t s' t' : Text}

theorem refl : ∀ s : Text, Respaced s s
  | [] => nil
  | c :: s => char c (refl s)

theorem symm (h : Respaced s t) : Respaced t s := by
  induction h with
  | nil => exact nil
  | char c _ ih => exact char c ih
  | gap hb hb' _ ih => exact gap hb' hb ih

theorem append (h : Respaced s t) (h' : Respaced s' t') : Respaced (s ++ s') (t ++ t') := by
  induction h with
  | nil => exact h'
  | char c _ ih => exact char c ih
  | gap hb hb' _ ih =>
      rw [List.append_assoc, List.append_assoc]
      exact gap hb hb' ih

theorem reverse (h : Respaced s t) : Respaced s.reverse t.reverse := by
  induction h with
  | nil => exact nil
  | char c _ ih => simpa using ih.append (char c nil)
  | gap hb hb' _ ih => simpa using ih.append (gap hb.reverse hb'.reverse nil)

/-- A text of blanks is respaced as one. -/
theorem forall_isBlank (h : Respaced s t) (hs : ∀ c ∈ s, isBlank c = true) :
    ∀ c ∈ t, isBlank c = true := by
  induction h with
  | nil => simp
  | char c _ ih =>
      rw [List.forall_mem_cons] at hs ⊢
      exact ⟨hs.1, ih hs.2⟩
  | gap _ hb' _ ih =>
      rw [List.forall_mem_append] at hs ⊢
      exact ⟨hb'.2, ih hs.2⟩

theorem isGap (h : Respaced s t) (hs : IsGap s) : IsGap t := by
  refine ⟨?_, h.forall_isBlank hs.2⟩
  cases h with
  | nil => exact hs.1
  | char c _ => simp
  | gap _ hb' _ => simp [hb'.1]

/-! #### Words -/

/-- Respacing changes no word, whatever stands before. -/
theorem words_append (h : Respaced s t) (u : Text) : words (u ++ s) = words (u ++ t) := by
  induction h generalizing u with
  | nil => rfl
  | char c _ ih => simpa using ih (u ++ [c])
  | gap hb hb' _ ih =>
      have hrest := ih []
      rw [List.nil_append, List.nil_append] at hrest
      rw [words_append_gap hb, words_append_gap hb', hrest]

theorem words_eq (h : Respaced s t) : s.words = t.words :=
  h.words_append []

/-! #### Searching -/

/-- A character that is not blank stands at the head of both texts or of neither. -/
private theorem cons_inv {c : Char} (hc : isBlank c = false) (h : Respaced (c :: s) t) :
    ∃ t', t = c :: t' ∧ Respaced s t' := by
  generalize hx : c :: s = x at h
  cases h with
  | nil => simp at hx
  | char d h =>
      simp only [List.cons.injEq] at hx
      obtain ⟨rfl, rfl⟩ := hx
      exact ⟨_, rfl, h⟩
  | @gap b b' s₀ t₀ hb hb' h =>
      obtain ⟨hne, hblank⟩ := hb
      cases b with
      | nil => exact absurd rfl hne
      | cons d b =>
          simp only [List.cons_append, List.cons.injEq] at hx
          have hd := hblank d (by simp)
          rw [← hx.1, hc] at hd
          simp at hd

/-- A mark at the head of a text is one at the head of its respacing. -/
private theorem mark_inv {mark : Text} (hm : ∀ c ∈ mark, isBlank c = false)
    (h : Respaced (mark ++ s) t) : ∃ t', t = mark ++ t' ∧ Respaced s t' := by
  induction mark generalizing t with
  | nil => exact ⟨t, rfl, h⟩
  | cons m mark ih =>
      obtain ⟨t₁, rfl, h₁⟩ := cons_inv (hm m (by simp)) h
      obtain ⟨t₂, rfl, h₂⟩ := ih (fun c hc => hm c (List.mem_cons_of_mem _ hc)) h₁
      exact ⟨t₂, rfl, h₂⟩

/-- Characters that are not blank stand in both texts, and divide them into respaced parts. -/
theorem exists_of_append {w u r : Text} (hne : w ≠ []) (hw : ∀ c ∈ w, isBlank c = false)
    (h : Respaced (u ++ (w ++ r)) t) :
    ∃ u' r', t = u' ++ (w ++ r') ∧ Respaced u u' ∧ Respaced r r' := by
  generalize hx : u ++ (w ++ r) = x at h
  induction h generalizing u with
  | nil => simp [hne] at hx
  | @char c s t h ih =>
      cases u with
      | nil =>
          rw [List.nil_append] at hx
          obtain ⟨r', heq, hr⟩ := mark_inv hw (hx ▸ char c h)
          exact ⟨[], r', heq, nil, hr⟩
      | cons d u =>
          obtain ⟨rfl, hs⟩ := List.cons.inj hx
          obtain ⟨u', r', rfl, hu, hr⟩ := ih hs
          exact ⟨d :: u', r', rfl, char d hu, hr⟩
  | @gap b b' s t hb hb' h ih =>
      rcases List.append_eq_append_iff.1 hx with ⟨a, hba, hwr⟩ | ⟨a, hua, hs⟩
      · -- The gap reaches up to the characters and no further.
        obtain rfl : a = [] := by
          cases a with
          | nil => rfl
          | cons d a =>
              obtain ⟨e, w', rfl⟩ := List.exists_cons_of_ne_nil hne
              obtain ⟨rfl, -⟩ := List.cons.inj hwr
              have hblank := hb.2 e (by rw [hba]; simp)
              rw [hw e (by simp)] at hblank
              simp at hblank
        rw [List.nil_append] at hwr
        rw [List.append_nil] at hba
        obtain ⟨r', rfl, hr⟩ := mark_inv hw (hwr ▸ h)
        refine ⟨b', r', rfl, ?_, hr⟩
        simpa [hba] using gap hb hb' nil
      · obtain ⟨u', r', rfl, hu, hr⟩ := ih hs.symm
        refine ⟨b' ++ u', r', by simp, ?_, hr⟩
        rw [hua]
        exact gap hb hb' hu

private theorem isPrefixOf_of {mark : Text} (hmark : IsMark mark) (h : Respaced s t)
    (hp : mark.isPrefixOf s = true) : mark.isPrefixOf t = true := by
  obtain ⟨rest, rfl⟩ := List.isPrefixOf_iff_prefix.1 hp
  obtain ⟨rest', rfl, -⟩ := mark_inv hmark.solid h
  exact List.isPrefixOf_iff_prefix.2 (List.prefix_append _ _)

/-- A mark is never found inside a gap. -/
private theorem breakAt?_gap {mark b : Text} (hmark : IsMark mark)
    (hb : ∀ c ∈ b, isBlank c = true) (s : Text) :
    breakAt? mark (b ++ s) = (breakAt? mark s).map fun cut => (b ++ cut.1, cut.2) := by
  induction b with
  | nil => simp
  | cons c b ih =>
      have hc : c ∉ mark := hmark.not_mem (hb c (by simp))
      rw [List.cons_append, breakAt?_cons_of_not_mem hmark.nonempty hc,
        ih fun d hd => hb d (List.mem_cons_of_mem _ hd)]
      cases breakAt? mark s <;> rfl

/-- **A mark is found in both of two respaced texts or in neither, and then it divides them
into respaced parts.** -/
theorem breakAt?_cases {mark : Text} (hmark : IsMark mark) (h : Respaced s t) :
    (breakAt? mark s = none ∧ breakAt? mark t = none) ∨
      ∃ x y, breakAt? mark s = some x ∧ breakAt? mark t = some y ∧
        Respaced x.1 y.1 ∧ Respaced x.2 y.2 := by
  induction h with
  | nil => exact Or.inl ⟨breakAt?_nil hmark.nonempty, breakAt?_nil hmark.nonempty⟩
  | @char c s t h ih =>
      rw [breakAt?_cons, breakAt?_cons]
      by_cases hp : mark.isPrefixOf (c :: s) = true
      · have hp' : mark.isPrefixOf (c :: t) = true := isPrefixOf_of hmark (char c h) hp
        rw [if_pos hp, if_pos hp']
        refine Or.inr ⟨_, _, rfl, rfl, nil, ?_⟩
        obtain ⟨rest, hrest⟩ := List.isPrefixOf_iff_prefix.1 hp
        obtain ⟨rest', hrest', hr⟩ := mark_inv hmark.solid (hrest ▸ char c h)
        simpa [← hrest, hrest'] using hr
      · have hp' : ¬ mark.isPrefixOf (c :: t) = true := fun hc =>
          hp (isPrefixOf_of hmark (char c h).symm hc)
        rw [if_neg hp, if_neg hp']
        rcases ih with ⟨hs, ht⟩ | ⟨x, y, hs, ht, hbefore, hafter⟩
        · rw [hs, ht]
          exact Or.inl ⟨rfl, rfl⟩
        · rw [hs, ht]
          exact Or.inr ⟨_, _, rfl, rfl, char c hbefore, hafter⟩
  | @gap b b' s t hb hb' h ih =>
      rw [breakAt?_gap hmark hb.2, breakAt?_gap hmark hb'.2]
      rcases ih with ⟨hs, ht⟩ | ⟨x, y, hs, ht, hbefore, hafter⟩
      · rw [hs, ht]
        exact Or.inl ⟨rfl, rfl⟩
      · rw [hs, ht]
        exact Or.inr ⟨_, _, rfl, rfl, gap hb hb' hbefore, hafter⟩

theorem upTo {mark : Text} (hmark : IsMark mark) (h : Respaced s t) :
    Respaced (Text.upTo mark s) (Text.upTo mark t) := by
  unfold Text.upTo
  rcases h.breakAt?_cases hmark with ⟨hs, ht⟩ | ⟨x, y, hs, ht, hbefore, -⟩
  · rw [hs, ht]; exact h
  · rw [hs, ht]; exact hbefore

/-! #### A text and its words -/

/-- Words with a space behind each. -/
private def padded (ws : List Text) : Text :=
  ws.flatMap (· ++ [' '])

/-- A text with a gap before it and a space behind it is a respacing of its words.  The walk
carries the gap `b` and the part `u` of a word that it has passed. -/
private theorem padded_of {b u : Text} (hb : IsGap b) (hu : ∀ c ∈ u, isBlank c = false)
    (s : Text) : Respaced (b ++ (u ++ (s ++ [' ']))) (' ' :: padded (words (u ++ s))) := by
  have hspace : IsGap [' '] := isGap_singleton (by decide)
  induction s generalizing b u with
  | nil =>
      cases u with
      | nil => simpa [padded] using gap (hb.snoc (by decide : isBlank ' ' = true)) hspace nil
      | cons d u =>
          rw [List.append_nil, words_of_solid (by simp) hu]
          simpa [padded] using gap hb hspace (refl (d :: u ++ [' ']))
  | cons c s ih =>
      by_cases hc : isBlank c = true
      · rw [words_append_blank hc]
        cases u with
        | nil => simpa using ih (hb.snoc hc) (u := []) (by simp)
        | cons d u =>
            have hrest := ih (isGap_singleton hc) (u := []) (by simp)
            rw [words_of_solid (by simp) hu]
            simpa [padded] using gap hb hspace ((refl (d :: u)).append hrest)
      · have hu' : ∀ x ∈ u ++ [c], isBlank x = false := by
          intro x hx
          rcases List.mem_append.1 hx with hxu | hxc
          · exact hu x hxu
          · rw [List.mem_singleton.1 hxc]; simpa using hc
        simpa using ih hb hu'

end Respaced

/-- **What does not mind spacing depends on words only.** -/
theorem eq_of_words_eq {α : Type} {f : Text → α}
    (hf : ∀ {s t : Text}, Respaced s t → f s = f t)
    (hends : ∀ s, f (' ' :: (s ++ [' '])) = f s) {s t : Text} (h : s.words = t.words) :
    f s = f t := by
  have hspace : IsGap [' '] := isGap_singleton (by decide)
  have hs := Respaced.padded_of hspace (u := []) (by simp) s
  have ht := Respaced.padded_of hspace (u := []) (by simp) t
  rw [List.nil_append, List.nil_append] at hs ht
  rw [h] at hs
  calc f s = f (' ' :: (s ++ [' '])) := (hends s).symm
    _ = f (' ' :: Respaced.padded t.words) := hf hs
    _ = f (' ' :: (t ++ [' '])) := (hf ht).symm
    _ = f t := hends t

/-- So an operation that takes respaced texts to respaced texts, and does not mind a space at
the ends, gives texts with the same words to texts with the same words. -/
theorem words_congr_of_respaced {f : Text → Text}
    (hf : ∀ {s t : Text}, Respaced s t → Respaced (f s) (f t))
    (hends : ∀ s, words (f (' ' :: (s ++ [' ']))) = words (f s)) {s t : Text}
    (h : s.words = t.words) : (f s).words = (f t).words :=
  eq_of_words_eq (f := fun s => words (f s)) (fun hst => (hf hst).words_eq) hends h

/-- The words of what precedes a mark depend on the words of the text only. -/
theorem words_upTo_congr {mark s t : Text} (hmark : IsMark mark) (h : s.words = t.words) :
    (upTo mark s).words = (upTo mark t).words := by
  refine words_congr_of_respaced (Respaced.upTo hmark) ?_ h
  intro s
  have hne := hmark.nonempty
  have hspace : ' ' ∉ mark := hmark.not_mem (by decide)
  rw [upTo_cons_of_not_mem hne hspace, words_cons_blank (by decide)]
  cases hcut : breakAt? mark s with
  | none =>
      rw [upTo_append_of_none hne hspace hcut, upTo_nil hne, upTo_eq_self hcut,
        words_append_single (by decide)]
  | some cut => rw [upTo_append_of_some hne hspace hcut]

/-- Whether a mark stands in a text depends on its words only. -/
theorem breakAt?_eq_none_congr {mark s t : Text} (hmark : IsMark mark) (h : s.words = t.words) :
    breakAt? mark s = none ↔ breakAt? mark t = none := by
  have hsame : (breakAt? mark s).isNone = (breakAt? mark t).isNone := by
    refine eq_of_words_eq (f := fun s => (breakAt? mark s).isNone) ?_ ?_ h
    · intro s t hst
      rcases hst.breakAt?_cases hmark with ⟨hs, ht⟩ | ⟨x, y, hs, ht, -⟩
      · rw [hs, ht]
      · rw [hs, ht]; rfl
    · intro s
      have hspace : ' ' ∉ mark := hmark.not_mem (by decide)
      rw [breakAt?_cons_of_not_mem hmark.nonempty hspace, breakAt?_append hmark.nonempty hspace,
        breakAt?_nil hmark.nonempty]
      cases breakAt? mark s <;> rfl
  rw [← Option.isNone_iff_eq_none, ← Option.isNone_iff_eq_none, hsame]

end SqlGuard.Text
