/-
Letter case.

Keywords are recognised in whatever case they are written, and each scanner has its own way to
do so.  `lower` is the one thing that they are all compared with: it writes the ASCII letters of
a text in lower case and leaves everything else alone, so two texts differ in the case of ASCII
letters only when it makes them equal (`eqUpToCase_iff`).

No operation on texts minds.  The classes of characters that texts are divided and trimmed by
hold a letter in both of its cases or in neither, and the marks that are searched for hold no
letter at all.  So dividing, trimming and searching can be done before the letters are lowered
or afterwards, and the upper case of a text is the same either way, since that of a character
is.
-/
import Mathlib.Data.List.Forall2
import SqlGuard.Proofs.Text.Search
import SqlGuard.Proofs.Text.Upper
import SqlGuard.Text.Word

namespace SqlGuard.Text

/-! ### Characters -/

/-- What distinguishes no ASCII character from its lower case distinguishes none. -/
theorem apply_toLower {α : Type} {f : Char → α}
    (h : ∀ n < 128, f (Char.ofNat n).toLower = f (Char.ofNat n)) (c : Char) :
    f c.toLower = f c := by
  by_cases hc : c.toNat < 128
  · simpa using h c.toNat hc
  · rw [toLower_eq_self (by omega)]

@[simp]
theorem isBlank_toLower (c : Char) : isBlank c.toLower = isBlank c :=
  apply_toLower (by decide +kernel) c

@[simp]
theorem isHorizontal_toLower (c : Char) : isHorizontal c.toLower = isHorizontal c :=
  apply_toLower (by decide +kernel) c

@[simp]
theorem isWord_toLower (c : Char) : isWord c.toLower = isWord c :=
  apply_toLower (by decide +kernel) c

@[simp]
theorem isAlpha_toLower (c : Char) : c.toLower.isAlpha = c.isAlpha :=
  apply_toLower (by decide +kernel) c

@[simp]
theorem upperChar_toLower (c : Char) : upperChar c.toLower = upperChar c :=
  apply_toLower (by decide +kernel) c

theorem toLower_toLower (c : Char) : c.toLower.toLower = c.toLower :=
  apply_toLower (by decide +kernel) c

theorem toLower_of_not_isAlpha {c : Char} (h : c.isAlpha = false) : c.toLower = c := by
  refine toLower_eq_self ?_
  rintro ⟨hlow, hhigh⟩
  have hupper : ∀ n < 128, 65 ≤ n → n ≤ 90 → (Char.ofNat n).isAlpha = true := by decide
  have hletter := hupper c.toNat (by omega) hlow hhigh
  rw [Char.ofNat_toNat, h] at hletter
  simp at hletter

/-- Only a letter has another lower case, and that is a letter. -/
theorem toLower_eq_iff_of_not_isAlpha {c x : Char} (hx : x.isAlpha = false) :
    c.toLower = x ↔ c = x := by
  constructor
  · rintro rfl
    rw [isAlpha_toLower] at hx
    exact (toLower_of_not_isAlpha hx).symm
  · rintro rfl
    exact toLower_of_not_isAlpha hx

theorem beq_toLower {x : Char} (hx : x.isAlpha = false) (c : Char) :
    (c.toLower == x) = (c == x) := by
  rw [Bool.eq_iff_iff, beq_iff_eq, beq_iff_eq, toLower_eq_iff_of_not_isAlpha hx]

/-! ### Texts -/

/-- The text with its ASCII letters in lower case. -/
def lower (s : Text) : Text :=
  s.map Char.toLower

@[simp]
theorem lower_nil : lower [] = [] :=
  rfl

@[simp]
theorem lower_cons (c : Char) (s : Text) : lower (c :: s) = c.toLower :: lower s :=
  rfl

@[simp]
theorem lower_append (u v : Text) : lower (u ++ v) = lower u ++ lower v :=
  List.map_append

@[simp]
theorem isEmpty_lower (s : Text) : (lower s).isEmpty = s.isEmpty :=
  List.isEmpty_map

/-- Whether two texts, of one length, differ in the case of ASCII letters only. -/
def EqUpToCase (s t : Text) : Prop :=
  List.Forall₂ (fun c d => c = d ∨ c.isAlpha = true ∧ d.isAlpha = true ∧ c.toLower = d.toLower) s t

/-- Two characters with one lower case are the same, or letters. -/
theorem toLower_eq_toLower_iff {c d : Char} :
    c.toLower = d.toLower ↔
      c = d ∨ c.isAlpha = true ∧ d.isAlpha = true ∧ c.toLower = d.toLower := by
  constructor
  · intro h
    have hsame : c.isAlpha = d.isAlpha := by rw [← isAlpha_toLower, h, isAlpha_toLower]
    cases hd : d.isAlpha with
    | true => exact Or.inr ⟨hsame.trans hd, rfl, h⟩
    | false =>
        rw [toLower_of_not_isAlpha hd, toLower_of_not_isAlpha (hsame.trans hd)] at h
        exact Or.inl h
  · rintro (rfl | ⟨-, -, h⟩)
    · rfl
    · exact h

theorem eqUpToCase_iff {s t : Text} : EqUpToCase s t ↔ lower s = lower t := by
  unfold EqUpToCase lower
  simp only [← toLower_eq_toLower_iff]
  rw [← List.forall₂_eq_eq_eq, List.forall₂_map_left_iff, List.forall₂_map_right_iff]

/-! ### Dividing and joining -/

/-- What can be done to one text before its letters are lowered or afterwards can be done so to
many. -/
theorem map_map_lower {f : Text → Text} (hf : ∀ s, f (lower s) = lower (f s)) (ss : List Text) :
    (ss.map lower).map f = (ss.map f).map lower := by
  rw [List.map_map, List.map_map]
  exact List.map_congr_left fun s _ => hf s

theorem splitOnP_lower {p : Char → Bool} (hp : ∀ c, p c.toLower = p c) (s : Text) :
    (lower s).splitOnP p = (s.splitOnP p).map lower := by
  induction s with
  | nil => rfl
  | cons c s ih =>
      obtain ⟨first, others, heq⟩ := List.exists_cons_of_ne_nil (List.splitOnP_ne_nil p s)
      rw [lower_cons, List.splitOnP_cons_eq_if_modifyHead, List.splitOnP_cons_eq_if_modifyHead, hp,
        ih, heq]
      split <;> rfl

theorem splitOn_lower {sep : Char} (hsep : sep.isAlpha = false) (s : Text) :
    (lower s).splitOn sep = (s.splitOn sep).map lower := by
  rw [List.splitOn_eq_splitOnP, List.splitOn_eq_splitOnP]
  exact splitOnP_lower (beq_toLower hsep) s

@[simp]
theorem lines_lower (s : Text) : (lower s).lines = s.lines.map lower :=
  splitOn_lower (by decide) s

theorem intercalate_map_lower {sep : Text} (hsep : lower sep = sep) (ls : List Text) :
    sep.intercalate (ls.map lower) = lower (sep.intercalate ls) := by
  induction ls with
  | nil => rfl
  | cons l ls ih =>
      cases ls with
      | nil => simp
      | cons l' ls =>
          rw [List.map_cons, List.map_cons, List.intercalate_cons_cons, List.intercalate_cons_cons,
            ← List.map_cons, ih, lower_append, lower_append, hsep]

@[simp]
theorem unlines_map_lower (ls : List Text) : unlines (ls.map lower) = lower (unlines ls) :=
  intercalate_map_lower rfl ls

theorem filter_isEmpty_lower (ls : List Text) :
    (ls.map lower).filter (!·.isEmpty) = (ls.filter (!·.isEmpty)).map lower := by
  rw [List.filter_map]
  simp [Function.comp_def]

theorem pieces_lower {p : Char → Bool} (hp : ∀ c, p c.toLower = p c) (s : Text) :
    (lower s).pieces p = (s.pieces p).map lower := by
  unfold pieces
  rw [splitOnP_lower hp, filter_isEmpty_lower]

@[simp]
theorem words_lower (s : Text) : (lower s).words = s.words.map lower :=
  pieces_lower isBlank_toLower s

@[simp]
theorem upper_lower (s : Text) : (lower s).upper = s.upper := by
  unfold upper lower
  rw [List.flatMap_map]
  simp only [upperChar_toLower]

/-! ### Trimming -/

theorem dropWhile_lower {p : Char → Bool} (hp : ∀ c, p c.toLower = p c) (s : Text) :
    (lower s).dropWhile p = lower (s.dropWhile p) := by
  unfold lower
  rw [List.dropWhile_map, show p ∘ Char.toLower = p from funext hp]

@[simp]
theorem trim_lower (s : Text) : (lower s).trim = lower s.trim := by
  have hreverse : ∀ u : Text, (lower u).reverse = lower u.reverse := fun u =>
    List.map_reverse.symm
  unfold trim trimRight trimLeft
  rw [dropWhile_lower isBlank_toLower, hreverse, dropWhile_lower isBlank_toLower, hreverse]

/-! ### Searching -/

/-- A mark without letters stands at the head of both texts or of neither. -/
theorem isPrefixOf_lower {mark : Text} (hmark : ∀ c ∈ mark, c.isAlpha = false) (s : Text) :
    mark.isPrefixOf (lower s) = mark.isPrefixOf s := by
  induction mark generalizing s with
  | nil => rfl
  | cons m mark ih =>
      obtain ⟨hm, hmark⟩ := List.forall_mem_cons.1 hmark
      cases s with
      | nil => rfl
      | cons c s =>
          rw [lower_cons, List.isPrefixOf_cons_cons, List.isPrefixOf_cons_cons, ih hmark,
            Bool.beq_comm, beq_toLower hm, Bool.beq_comm]

/-- **A search that does not mind case finds the same place.** -/
theorem firstCut?_lower {fits : Text → Text → Bool}
    (h : ∀ u v, fits (lower u) (lower v) = fits u v) (s : Text) :
    (lower s).firstCut? fits = (s.firstCut? fits).map fun cut => (lower cut.1, lower cut.2) := by
  have main : ∀ passed s : Text, firstCut?.go fits (lower passed) (lower s) =
      (firstCut?.go fits passed s).map fun cut => (lower cut.1, lower cut.2) := by
    intro passed s
    induction s generalizing passed with
    | nil =>
        have hfits := h passed []
        rw [lower_nil] at hfits
        rw [lower_nil, firstCut?.go, firstCut?.go, hfits]
        split <;> simp [lower]
    | cons c s ih =>
        have hfits := h passed (c :: s)
        rw [lower_cons] at hfits
        rw [lower_cons, firstCut?.go, firstCut?.go, hfits, ← lower_cons c passed, ih (c :: passed)]
        split <;> simp [lower]
  exact main [] s

theorem hasCut_lower {fits : Text → Text → Bool}
    (h : ∀ u v, fits (lower u) (lower v) = fits u v) (s : Text) :
    (lower s).hasCut fits = s.hasCut fits := by
  unfold hasCut
  rw [firstCut?_lower h, Option.isSome_map]

theorem breakAt?_lower {mark : Text} (hmark : ∀ c ∈ mark, c.isAlpha = false) (s : Text) :
    breakAt? mark (lower s) = (breakAt? mark s).map fun cut => (lower cut.1, lower cut.2) := by
  unfold breakAt?
  rw [firstCut?_lower fun _ => isPrefixOf_lower hmark, Option.map_map, Option.map_map]
  congr 1
  funext cut
  simp [lower]

theorem upTo_lower {mark : Text} (hmark : ∀ c ∈ mark, c.isAlpha = false) (s : Text) :
    upTo mark (lower s) = lower (upTo mark s) := by
  unfold upTo
  rw [breakAt?_lower hmark]
  cases breakAt? mark s <;> rfl

end SqlGuard.Text
