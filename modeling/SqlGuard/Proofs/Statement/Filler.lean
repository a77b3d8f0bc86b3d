/-
Words, and gaps that hold comments.

A word of a statement is untouched by the comments around it as long as no half of a marker is
in it (`PlainWord`).

Between two words there may be blanks, comments, or both.  A `Filler` is such a gap, told by
the pieces it is made of.  The pieces stand in any order, with one exception: a slash must not
follow a block comment, since it would make a marker of the slash before it.

A filler is read apart from what follows it (`Filler.dropComments_append`), and only blanks are
left of it: those outside its comments, and the line feed of each line comment.  Block comments
leave nothing, so there are fillers that separate no words.

In upper case a filler can be told from a word at both ends.  It does not begin with a letter,
and it does not end in a letter and one space, even though its comments hold what they like.
-/
import SqlGuard.Proofs.Statement.Block

namespace SqlGuard

open Text

/-! ### Words -/

/-- A word without a character that a marker is made of. -/
structure PlainWord (w : Text) : Prop where
  nonempty : w ≠ []
  solid : ∀ c ∈ w, isBlank c = false
  unmarked : ∀ c ∈ w, ∀ m : Marker, c ≠ m.char

namespace PlainWord

variable {w : Text}

theorem of_isAlpha (hne : w ≠ []) (h : ∀ c ∈ w, c.isAlpha = true) : PlainWord w :=
  ⟨hne, fun c hc => isBlank_of_isAlpha (h c hc), fun c hc => Marker.ne_char_of_isAlpha (h c hc)⟩

/-- What is letters in upper case is a plain word. -/
theorem of_upper {k : Text} (hk : ∀ c ∈ k, c.isAlpha = true) (hne : k ≠ []) (h : w.upper = k) :
    PlainWord w := by
  have hfixed : ∀ c ∈ w, upperChar c = [c] → c.isAlpha = true := by
    intro c hc hupper
    exact hk c (h ▸ mem_upper_of_fixed hupper hc)
  refine ⟨?_, ?_, ?_⟩
  · rintro rfl
    exact hne h.symm
  · intro c hc
    rw [Bool.eq_false_iff]
    intro hblank
    have hletter := hfixed c hc (upperChar_of_isBlank hblank)
    rw [isAlpha_of_isBlank hblank] at hletter
    simp at hletter
  · rintro c hc m rfl
    have hletter := hfixed m.char hc (by cases m <;> decide)
    exact Marker.ne_char_of_isAlpha hletter m rfl

theorem dropComments_append (hw : PlainWord w) (s : Text) :
    dropComments (w ++ s) = w ++ dropComments s :=
  SqlGuard.dropComments_append hw.unmarked s

theorem head?_append_ne_slash (hw : PlainWord w) (s : Text) :
    (w ++ s).head? ≠ some '/' := by
  obtain ⟨c, w, rfl⟩ := List.exists_cons_of_ne_nil hw.nonempty
  have hc : c ≠ '/' := hw.unmarked c (by simp) .slashes
  simpa using hc

/-- The kind of a text that starts with a word and goes on in a blank, or not at all. -/
theorem kind_append (hw : PlainWord w) {s : Text}
    (hs : ∀ c ∈ (dropComments s).head?, isBlank c = true) :
    kind (w ++ s) = String.ofList w.upper := by
  rw [kind_eq, hw.dropComments_append]
  exact leadingKeyword_of_word hw.nonempty hw.solid hs

theorem kind_self (hw : PlainWord w) : kind w = String.ofList w.upper := by
  have h := hw.kind_append (s := []) (by simp)
  rwa [List.append_nil] at h

theorem kind_append_space (hw : PlainWord w) (b : Text) :
    kind (w ++ ' ' :: b) = String.ofList w.upper := by
  have hspace : isBlank ' ' = true := by decide
  refine hw.kind_append ?_
  rw [dropComments_cons (Marker.ne_char_of_isBlank hspace)]
  simpa using hspace

end PlainWord

/-! ### Fillers -/

/-- Blanks and comments, each comment with its end. -/
inductive Filler : Text → Prop
  | nil : Filler []
  | blank {c : Char} {f : Text} (hc : isBlank c = true) (h : Filler f) : Filler (c :: f)
  | line {m : Marker} {body f : Text} (hbody : '\n' ∉ body) (h : Filler f) :
      Filler (m.text ++ (body ++ '\n' :: f))
  | block {body f : Text} (hclose : ¬ blockClose <:+: body)
      (hcode : endsInLineComment body = false) (hnext : f.head? ≠ some '/') (h : Filler f) :
      Filler (blockOpen ++ (body ++ (blockClose ++ f)))

namespace Filler

variable {f : Text}

/-! #### What is left -/

/-- **A filler is read apart from what follows it**, unless a slash does. -/
theorem dropComments_append {r : Text} (hf : Filler f) (hr : r.head? ≠ some '/') :
    dropComments (f ++ r) = dropComments f ++ dropComments r := by
  induction hf with
  | nil => rw [dropComments_nil]; rfl
  | blank hc _ ih =>
      have hchar := Marker.ne_char_of_isBlank hc
      rw [List.cons_append, dropComments_cons hchar, dropComments_cons hchar, ih]
      rfl
  | line hbody _ ih =>
      rw [List.append_assoc, List.append_assoc, List.cons_append, dropComments_line hbody,
        dropComments_line hbody, ih]
      rfl
  | @block body f hclose hcode hnext _ ih =>
      have hseam : (f ++ r).head? ≠ some '/' := by
        cases f with
        | nil => exact hr
        | cons c f => exact hnext
      rw [List.append_assoc, List.append_assoc, List.append_assoc,
        dropComments_block hclose hcode hseam, dropComments_block hclose hcode hnext, ih]

theorem isBlank_of_mem_dropComments (hf : Filler f) : ∀ c ∈ dropComments f, isBlank c = true := by
  induction hf with
  | nil => simp
  | blank hc _ ih =>
      rw [dropComments_cons (Marker.ne_char_of_isBlank hc), List.forall_mem_cons]
      exact ⟨hc, ih⟩
  | line hbody _ ih =>
      rw [dropComments_line hbody, List.forall_mem_cons]
      exact ⟨by decide, ih⟩
  | block hclose hcode hnext _ ih =>
      rw [dropComments_block hclose hcode hnext]
      exact ih

/-! #### Its two ends -/

/-- A filler begins with a blank or with the opening of a comment. -/
theorem upper_cases (hf : Filler f) : f = [] ∨ ∃ c r, f.upper = c :: r ∧ c.isAlpha = false := by
  cases hf with
  | nil => exact Or.inl rfl
  | @blank c f hc _ =>
      refine Or.inr ⟨c, f.upper, ?_, isAlpha_of_isBlank hc⟩
      rw [upper_cons, upperChar_of_isBlank hc]
      rfl
  | @line m body f hbody _ =>
      have hchar : upperChar m.char = [m.char] ∧ m.char.isAlpha = false := by cases m <;> decide
      refine Or.inr ⟨m.char, upper (m.char :: (body ++ '\n' :: f)), ?_, hchar.2⟩
      exact (upper_cons m.char _).trans (by rw [hchar.1]; rfl)
  | @block body f _ _ _ _ =>
      exact Or.inr ⟨'/', upper ('*' :: (body ++ (blockClose ++ f))), upper_cons '/' _, by decide⟩

/-- A space at its end has another blank before it, or a comment, and no letter. -/
theorem not_letter_space_suffix {a : Char} (ha : a.isAlpha = true) (hf : Filler f) :
    ¬ [a, ' '] <:+ f.upper := by
  have hmem : ∀ c : Char, c.isAlpha = false → c ≠ ' ' → c ∉ [a, ' '] := by
    intro c hc hspace hin
    rcases List.mem_cons.1 hin with rfl | hin
    · rw [ha] at hc
      simp at hc
    · exact hspace (by simpa using hin)
  induction hf with
  | nil => simp [upper]
  | @blank c f hc _ ih =>
      rw [upper_cons, upperChar_of_isBlank hc, List.singleton_append]
      intro hend
      rcases List.suffix_cons_iff.1 hend with heq | hrest
      · rw [← (List.cons.inj heq).1, isBlank_of_isAlpha ha] at hc
        simp at hc
      · exact ih hrest
  | @line m body f _ _ ih =>
      have hupper : upper (m.text ++ (body ++ '\n' :: f)) =
          (upper m.text ++ body.upper) ++ '\n' :: f.upper := by
        rw [upper_append, upper_append, upper_cons, List.append_assoc]
        rfl
      rw [hupper]
      exact fun hend => ih (suffix_of_suffix_append_seam (hmem '\n' (by decide) (by decide)) hend)
  | @block body f _ _ _ _ ih =>
      have hupper : upper (blockOpen ++ (body ++ (blockClose ++ f))) =
          (upper blockOpen ++ (body.upper ++ ['*'])) ++ '/' :: f.upper := by
        have hclosing : upper blockClose = ['*', '/'] := by decide
        rw [upper_append, upper_append, upper_append, hclosing]
        simp
      rw [hupper]
      exact fun hend => ih (suffix_of_suffix_append_seam (hmem '/' (by decide) (by decide)) hend)

/-- Before a word that begins with a letter, a filler reads as one space and the word exactly
when it is one space. -/
theorem space_prefix_iff {k : Text} (hf : Filler f) (hk : k.head?.any Char.isAlpha = true)
    (r : Text) : ' ' :: k <+: f.upper ++ (k ++ r) ↔ f = [' '] := by
  obtain ⟨a, k, rfl⟩ : ∃ a k', k = a :: k' := by
    cases k with
    | nil => simp at hk
    | cons a k => exact ⟨a, k, rfl⟩
  have ha : a.isAlpha = true := by simpa using hk
  constructor
  · intro hstart
    cases hf with
    | nil =>
        have hspace : a = ' ' := (List.cons_prefix_cons.1 hstart).1.symm
        rw [hspace] at ha
        exact absurd ha (by decide)
    | @blank c f hc hrest =>
        rw [upper_cons, upperChar_of_isBlank hc, List.singleton_append, List.cons_append] at hstart
        obtain ⟨rfl, hword⟩ := List.cons_prefix_cons.1 hstart
        -- The word would have to begin in the rest of the filler.
        rcases hrest.upper_cases with rfl | ⟨d, s, hupper, hd⟩
        · rfl
        · rw [hupper, List.cons_append] at hword
          rw [← (List.cons_prefix_cons.1 hword).1, ha] at hd
          simp at hd
    | @line m =>
        cases m <;> simp [Marker.text, Marker.char, upper, upperChar] at hstart
    | block => simp [blockOpen, upper, upperChar] at hstart
  · rintro rfl
    exact List.prefix_append (' ' :: a :: k) r

end Filler

end SqlGuard
