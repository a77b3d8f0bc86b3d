/-
Taking a text apart and putting it together.

Dividing at a separator and joining undo each other as long as no piece holds the
separator, and no piece of a division does.  Trimming only ever drops characters, and
`trim_eq_self_iff` says when it drops none: neither end is blank.  From this one fact
comes all that the later files ask of a trimmed text, for trimming is never unfolded
again.
-/
import Mathlib.Data.List.DropRight
import SqlGuard.Text.Basic

namespace SqlGuard.Text

/-! ### Pieces between separators -/

/-- A division gives its pieces characters of the text that do not divide it. -/
theorem mem_of_mem_splitOnP {p : Char → Bool} {c : Char} {s piece : Text}
    (h : piece ∈ s.splitOnP p) (hc : c ∈ piece) : c ∈ s ∧ p c = false := by
  induction s generalizing piece with
  | nil =>
      have hnil : piece = [] := by simpa using h
      simp [hnil] at hc
  | cons x s ih =>
      rw [List.splitOnP_cons_eq_if_modifyHead] at h
      by_cases hx : p x = true
      · rw [if_pos hx] at h
        rcases List.mem_cons.1 h with hnil | hrest
        · simp [hnil] at hc
        · exact ⟨List.mem_cons_of_mem _ (ih hrest hc).1, (ih hrest hc).2⟩
      · rw [if_neg hx] at h
        obtain ⟨first, others, heq⟩ := List.exists_cons_of_ne_nil (List.splitOnP_ne_nil p s)
        rw [heq, List.modifyHead_cons] at h
        rcases List.mem_cons.1 h with hfirst | hrest
        · rw [hfirst] at hc
          rcases List.mem_cons.1 hc with hcx | hcs
          · exact ⟨by simp [hcx], by rw [hcx]; simpa using hx⟩
          · have := ih (by rw [heq]; exact List.mem_cons_self) hcs
            exact ⟨List.mem_cons_of_mem _ this.1, this.2⟩
        · have := ih (by rw [heq]; exact List.mem_cons_of_mem _ hrest) hc
          exact ⟨List.mem_cons_of_mem _ this.1, this.2⟩

theorem mem_of_mem_splitOn {sep c : Char} {s piece : Text} (h : piece ∈ s.splitOn sep)
    (hc : c ∈ piece) : c ∈ s ∧ c ≠ sep := by
  rw [List.splitOn_eq_splitOnP] at h
  simpa using mem_of_mem_splitOnP h hc

/-- A line is made of the text's characters, and holds no line feed. -/
theorem mem_of_mem_lines {s line : Text} {c : Char} (h : line ∈ s.lines) (hc : c ∈ line) :
    c ∈ s ∧ c ≠ '\n' :=
  mem_of_mem_splitOn h hc

theorem feed_not_mem_of_mem_lines {s line : Text} (h : line ∈ s.lines) : '\n' ∉ line :=
  fun hc => (mem_of_mem_lines h hc).2 rfl

/-- Joined lines come apart again. -/
theorem lines_unlines {ls : List Text} (hne : ls ≠ []) (h : ∀ l ∈ ls, '\n' ∉ l) :
    (unlines ls).lines = ls :=
  List.splitOn_intercalate '\n' h hne

/-- Where an empty line counts for nothing, lines can be joined; there need not be any. -/
theorem any_lines_unlines {f : Text → Bool} (hf : f [] = false) {ls : List Text}
    (h : ∀ l ∈ ls, '\n' ∉ l) : (unlines ls).lines.any f = ls.any f := by
  cases ls with
  | nil => simp [lines, unlines, hf]
  | cons l ls => rw [lines_unlines (by simp) h]

@[simp]
theorem unlines_singleton (l : Text) : unlines [l] = l := by
  simp [unlines]

theorem unlines_cons_cons (l l' : Text) (ls : List Text) :
    unlines (l :: l' :: ls) = l ++ '\n' :: unlines (l' :: ls) := by
  simp [unlines, List.intercalate_cons_cons]

theorem unlines_append {ls ks : List Text} (hl : ls ≠ []) (hk : ks ≠ []) :
    unlines (ls ++ ks) = unlines ls ++ '\n' :: unlines ks := by
  obtain ⟨k, ks, rfl⟩ := List.exists_cons_of_ne_nil hk
  induction ls with
  | nil => exact absurd rfl hl
  | cons l ls ih =>
      cases ls with
      | nil => rw [unlines_singleton, List.singleton_append, unlines_cons_cons]
      | cons l' ls =>
          have hrest := ih (by simp)
          rw [List.cons_append] at hrest
          rw [List.cons_append, List.cons_append, unlines_cons_cons, hrest, unlines_cons_cons]
          simp

theorem lines_append_feed (u v : Text) : (u ++ '\n' :: v).lines = u.lines ++ v.lines :=
  List.splitOn_append_cons_self ..

theorem lines_of_not_mem {l : Text} (h : '\n' ∉ l) : l.lines = [l] :=
  List.splitOn_eq_singleton h

theorem lines_ne_nil (s : Text) : s.lines ≠ [] :=
  List.splitOn_ne_nil '\n' s

/-- A text is one line, or its last line stands behind a line feed. -/
theorem one_line_or_append (s : Text) :
    '\n' ∉ s ∨ ∃ u l, s = u ++ '\n' :: l ∧ '\n' ∉ l := by
  induction s with
  | nil => exact Or.inl (by simp)
  | cons c s ih =>
      rcases ih with hs | ⟨u, l, rfl, hl⟩
      · by_cases hc : c = '\n'
        · exact Or.inr ⟨[], s, by rw [hc]; rfl, hs⟩
        · refine Or.inl ?_
          simp only [List.mem_cons, not_or]
          exact ⟨Ne.symm hc, hs⟩
      · exact Or.inr ⟨c :: u, l, rfl, hl⟩

theorem intercalate_ne_nil {sep : Char} {l : Text} (hne : l ≠ []) (ls : List Text) :
    [sep].intercalate (l :: ls) ≠ [] := by
  cases ls with
  | nil => simpa using hne
  | cons l' ls => simp [List.intercalate_cons_cons]

/-- What is joined from texts holds their characters and the separator. -/
theorem mem_intercalate {sep c : Char} {ls : List Text} (h : c ∈ [sep].intercalate ls) :
    c = sep ∨ ∃ l ∈ ls, c ∈ l := by
  induction ls with
  | nil => simp at h
  | cons l ls ih =>
      cases ls with
      | nil => exact Or.inr ⟨l, by simp, by simpa using h⟩
      | cons l' ls =>
          rw [List.intercalate_cons_cons, List.append_assoc] at h
          rcases List.mem_append.1 h with hl | hrest
          · exact Or.inr ⟨l, by simp, hl⟩
          · rcases List.mem_cons.1 hrest with hsep | htail
            · exact Or.inl hsep
            · rcases ih htail with hsep | ⟨k, hk, hc⟩
              · exact Or.inl hsep
              · exact Or.inr ⟨k, List.mem_cons_of_mem _ hk, hc⟩

/-! ### Blanks -/

/-- The code points of the blanks. -/
def blankCodes : List Nat :=
  List.range' 9 5 ++ List.range' 28 5 ++ List.range' 0x2000 11 ++
    [0x85, 0xA0, 0x1680, 0x2028, 0x2029, 0x202F, 0x205F, 0x3000]

/-- What holds of each of them holds of a blank. -/
theorem of_isBlank {p : Char → Prop} (h : ∀ n ∈ blankCodes, p (Char.ofNat n)) {c : Char}
    (hc : isBlank c = true) : p c := by
  rw [← Char.ofNat_toNat c]
  refine h c.toNat ?_
  simp only [isBlank, Bool.or_eq_true, Bool.and_eq_true, decide_eq_true_eq, beq_iff_eq] at hc
  simp only [blankCodes, List.mem_append, List.mem_range'_1, List.mem_cons, List.not_mem_nil,
    or_false]
  omega

theorem isAlpha_of_isBlank {c : Char} (h : isBlank c = true) : c.isAlpha = false :=
  of_isBlank (p := fun c => c.isAlpha = false) (by decide +kernel) h

theorem isBlank_of_isAlpha {c : Char} (h : c.isAlpha = true) : isBlank c = false := by
  rw [Bool.eq_false_iff]
  intro hc
  rw [isAlpha_of_isBlank hc] at h
  simp at h

/-! ### Blanks at the ends -/

theorem trimRight_eq_rdropWhile (s : Text) : s.trimRight = s.rdropWhile isBlank :=
  rfl

theorem trim_isInfix (s : Text) : s.trim <:+: s :=
  (List.rdropWhile_prefix isBlank _).isInfix.trans (List.dropWhile_suffix isBlank).isInfix

/-- What trimming drops in front of a text is blank. -/
theorem exists_blanks_append_trim (s : Text) :
    ∃ b e, s = b ++ (s.trim ++ e) ∧ ∀ c ∈ b, isBlank c = true := by
  obtain ⟨e, he⟩ : s.trim <+: s.dropWhile isBlank := List.rdropWhile_prefix isBlank _
  refine ⟨s.takeWhile isBlank, e, ?_, fun c => List.mem_takeWhile_imp⟩
  rw [he, List.takeWhile_append_dropWhile]

theorem mem_of_mem_trim {s : Text} {c : Char} (h : c ∈ s.trim) : c ∈ s :=
  (trim_isInfix s).subset h

/-- Whether no blank stands at either end of a text. -/
def BareEnds (s : Text) : Prop :=
  (∀ c ∈ s.head?, isBlank c = false) ∧ ∀ c ∈ s.getLast?, isBlank c = false

/-- Trimming leaves a text alone exactly when neither of its ends is blank. -/
theorem trim_eq_self_iff {s : Text} : s.trim = s ↔ s.BareEnds := by
  cases s with
  | nil => simp [BareEnds, trim, trimLeft, trimRight]
  | cons c s =>
      by_cases hc : isBlank c = true
      · constructor
        · intro h
          -- A text that loses its first character is shorter than before.
          have hlen : (trim (c :: s)).length ≤ s.length := by
            have : trim (c :: s) = trim s := by simp [trim, trimLeft, hc]
            rw [this]
            exact (trim_isInfix s).length_le
          rw [h, List.length_cons] at hlen
          omega
        · intro h
          have := h.1 c (by simp)
          rw [hc] at this
          simp at this
      · have hleft : trim (c :: s) = (c :: s).rdropWhile isBlank := by
          simp [trim, trimLeft, hc, trimRight_eq_rdropWhile]
        rw [hleft, List.rdropWhile_eq_self_iff]
        simp [BareEnds, hc, List.getLast?_eq_getLast_of_ne_nil]

theorem bareEnds_trim (s : Text) : s.trim.BareEnds := by
  have hright : ∀ c ∈ s.trim.getLast?, isBlank c = false := by
    intro c hc
    have hne : s.trimLeft.rdropWhile isBlank ≠ [] := by
      intro hnil
      rw [show s.trim = [] from hnil] at hc
      simp at hc
    have hlast := List.rdropWhile_last_not isBlank s.trimLeft hne
    have : c = (s.trimLeft.rdropWhile isBlank).getLast hne := by
      have hget : (s.trimLeft.rdropWhile isBlank).getLast? = some c := hc
      rw [List.getLast?_eq_getLast_of_ne_nil hne] at hget
      exact (Option.some.inj hget).symm
    simpa [this] using hlast
  refine ⟨?_, hright⟩
  intro c hc
  -- The first character left is the first one that trimming on the left left.
  have hprefix : s.trim <+: s.trimLeft := List.rdropWhile_prefix isBlank _
  have hhead : s.trimLeft.head? = some c := by
    obtain ⟨rest, hrest⟩ := hprefix
    rw [← hrest]
    cases htrim : s.trim with
    | nil => rw [htrim] at hc; simp at hc
    | cons d t => rw [htrim] at hc; simpa using hc
  have := List.head?_dropWhile_not isBlank s
  rw [show s.dropWhile isBlank = s.trimLeft from rfl, hhead] at this
  simpa using this

/-- What the first character behind the blanks in front of a text is like. -/
theorem any_head?_dropWhile_iff {p : Char → Bool} {s : Text} :
    (s.dropWhile isBlank).head?.any p = true ↔
      ∃ b c r, s = b ++ c :: r ∧ (∀ d ∈ b, isBlank d = true) ∧ isBlank c = false ∧ p c = true := by
  constructor
  · intro h
    cases hrest : s.dropWhile isBlank with
    | nil =>
        rw [hrest] at h
        simp at h
    | cons c r =>
        have hc := List.head?_dropWhile_not isBlank s
        rw [hrest] at h hc
        have hsplit := List.takeWhile_append_dropWhile (p := isBlank) (l := s)
        rw [hrest] at hsplit
        exact ⟨s.takeWhile isBlank, c, r, hsplit.symm, fun d => List.mem_takeWhile_imp,
          by simpa using hc, by simpa using h⟩
  · intro h
    obtain ⟨b, c, r, rfl, hb, hc, hp⟩ := h
    rw [List.dropWhile_append_of_pos hb]
    simp [hc, hp]

/-- What the last character before the blanks behind a text is like. -/
theorem any_head?_dropWhile_reverse_iff {p : Char → Bool} {s : Text} :
    (s.reverse.dropWhile isBlank).head?.any p = true ↔
      ∃ a c b, s = a ++ c :: b ∧ isBlank c = false ∧ p c = true ∧ ∀ d ∈ b, isBlank d = true := by
  rw [any_head?_dropWhile_iff]
  constructor
  · intro h
    obtain ⟨b, c, r, heq, hb, hc, hp⟩ := h
    refine ⟨r.reverse, c, b.reverse, ?_, hc, hp, by simpa using hb⟩
    simpa using congrArg List.reverse heq
  · intro h
    obtain ⟨a, c, b, rfl, hc, hp, hb⟩ := h
    exact ⟨b.reverse, c, a.reverse, by simp, by simpa using hb, hc, hp⟩

theorem trim_cons_of_isBlank {c : Char} (hc : isBlank c = true) (s : Text) :
    trim (c :: s) = trim s := by
  simp [trim, trimLeft, hc]

theorem trim_blanks_append {b : Text} (hb : ∀ c ∈ b, isBlank c = true) (s : Text) :
    trim (b ++ s) = trim s := by
  induction b with
  | nil => rfl
  | cons c b ih =>
      rw [List.cons_append, trim_cons_of_isBlank (hb c (by simp))]
      exact ih fun d hd => hb d (List.mem_cons_of_mem _ hd)

/-- Only blanks are trimmed away entirely. -/
theorem trim_eq_nil_iff {s : Text} : s.trim = [] ↔ ∀ c ∈ s, isBlank c = true := by
  show s.trimLeft.rdropWhile isBlank = [] ↔ _
  rw [List.rdropWhile_eq_nil_iff]
  constructor
  · intro h
    rw [← List.dropWhile_eq_nil_iff]
    cases hleft : s.dropWhile isBlank with
    | nil => rfl
    | cons c rest =>
        -- The first character that trimming on the left leaves is not blank.
        have hblank := h c (by rw [trimLeft, hleft]; simp)
        have hhead := List.head?_dropWhile_not isBlank s
        rw [hleft] at hhead
        simp [hblank] at hhead
  · intro h c hc
    exact h c ((List.dropWhile_suffix isBlank).subset hc)

/-- Behind a character that is not blank, trimming on the right comes to an end. -/
theorem trimRight_append {u : Text} (hu : ∀ c ∈ u.getLast?, isBlank c = false) (r : Text) :
    trimRight (u ++ r) = u ++ r.trimRight := by
  induction r using List.reverseRecOn with
  | nil =>
      have hkeep : u.rdropWhile isBlank = u := by
        rw [List.rdropWhile_eq_self_iff]
        intro hne
        simp [hu (u.getLast hne) (List.getLast?_eq_getLast_of_ne_nil hne)]
      rw [List.append_nil, trimRight_eq_rdropWhile, hkeep]
      exact (List.append_nil u).symm
  | append_singleton r c ih =>
      rw [trimRight_eq_rdropWhile, trimRight_eq_rdropWhile] at ih ⊢
      rw [← List.append_assoc]
      by_cases hc : isBlank c = true
      · rw [List.rdropWhile_concat_pos _ _ _ hc, List.rdropWhile_concat_pos _ _ _ hc, ih]
      · rw [List.rdropWhile_concat_neg _ _ _ hc, List.rdropWhile_concat_neg _ _ _ hc,
          List.append_assoc]

theorem trim_append_of_bareEnds {u : Text} (hne : u ≠ []) (hu : u.BareEnds) (r : Text) :
    trim (u ++ r) = u ++ r.trimRight := by
  obtain ⟨c, u, rfl⟩ := List.exists_cons_of_ne_nil hne
  have hleft : trimLeft (c :: u ++ r) = c :: u ++ r := by
    simp [trimLeft, hu.1 c (by simp)]
  rw [trim, hleft, trimRight_append hu.2]

/-- Bare ends are kept by joining texts that have them and are not empty. -/
theorem bareEnds_intercalate {sep : Char} {ls : List Text} (h : ∀ l ∈ ls, l ≠ [] ∧ l.BareEnds) :
    BareEnds ([sep].intercalate ls) := by
  induction ls with
  | nil => simp [BareEnds]
  | cons l ls ih =>
      obtain ⟨hne, hl⟩ := h l (by simp)
      cases ls with
      | nil => simpa using hl
      | cons l' ls =>
          have hrest := ih fun k hk => h k (List.mem_cons_of_mem _ hk)
          have hrestne : [sep].intercalate (l' :: ls) ≠ [] :=
            intercalate_ne_nil (h l' (by simp)).1 ls
          rw [List.intercalate_cons_cons, List.append_assoc]
          refine ⟨?_, ?_⟩
          · rw [List.head?_append_of_ne_nil _ hne]
            exact hl.1
          · rw [List.getLast?_append_of_ne_nil _ (by simp), List.singleton_append,
              List.getLast?_cons_of_ne_nil hrestne]
            exact hrest.2

theorem bareEnds_unlines {ls : List Text} (h : ∀ l ∈ ls, l ≠ [] ∧ l.BareEnds) :
    (unlines ls).BareEnds :=
  bareEnds_intercalate h

end SqlGuard.Text
