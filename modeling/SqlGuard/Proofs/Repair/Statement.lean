/-
What a repair makes of one statement.

Whether a statement is rewritten, and into what, is decided by the statement alone: a
commented filter makes it invalid under all rules, so the report that the repair consults
says nothing that the scanners did not.  `mended` is that function of the statement.

It goes only so far.  Its value is again a statement (trimmed, not empty, and without a
semicolon, since it is made of the characters of the old one and spaces), and it has an
active filter whenever it differs from the statement it replaces.  So it is never
rewritten a second time.
-/
import SqlGuard.Proofs.Statement.Comment
import SqlGuard.Proofs.Verdict.Meaning
import SqlGuard.Repair

namespace SqlGuard

open Text

/-! ### Normalised text -/

theorem bareEnds_normaliseLine (line : Text) : (normaliseLine line).BareEnds :=
  bareEnds_trim _

@[simp]
theorem words_normaliseLine (line : Text) : (normaliseLine line).words = line.words := by
  unfold normaliseLine
  rw [words_trim, words_intercalate_pieces fun _ => isBlank_of_isHorizontal]

/-- A normalised line holds nothing new but spaces. -/
theorem mem_of_mem_normaliseLine {line : Text} {c : Char} (h : c ∈ normaliseLine line) :
    c = ' ' ∨ c ∈ line := by
  rcases mem_intercalate (mem_of_mem_trim h) with hspace | ⟨l, hl, hc⟩
  · exact Or.inl hspace
  · exact Or.inr (mem_of_mem_splitOnP (List.mem_filter.1 hl).1 hc).1

/-- The lines of a normalised text. -/
def normalLines (s : Text) : List Text :=
  (s.lines.map normaliseLine).filter (!·.isEmpty)

theorem not_mem_of_mem_normalLines {s l : Text} (h : l ∈ normalLines s) : '\n' ∉ l := by
  obtain ⟨line, hline, rfl⟩ := List.mem_map.1 (List.mem_filter.1 h).1
  intro hc
  rcases mem_of_mem_normaliseLine hc with hspace | hmem
  · exact absurd hspace (by decide)
  · exact feed_not_mem_of_mem_lines hline hmem

/-- **A scan of the lines that goes by words does not see normalising.**  The lines that are
dropped have no words. -/
theorem any_lines_normalise {f : Text → Bool} (hf : f [] = false)
    (hwords : ∀ {l k : Text}, l.words = k.words → f l = f k) (s : Text) :
    (normalise s).lines.any f = s.lines.any f := by
  have hline : ∀ line : Text,
      (!(normaliseLine line).isEmpty && f (normaliseLine line)) = f line := by
    intro line
    rw [← hwords (words_normaliseLine line)]
    cases normaliseLine line with
    | nil => simp [hf]
    | cons c l => simp
  show (unlines (normalLines s)).lines.any f = s.lines.any f
  rw [any_lines_unlines hf fun l => not_mem_of_mem_normalLines, normalLines, List.any_filter,
    List.any_map]
  exact congrArg s.lines.any (funext hline)

@[simp]
theorem words_normalise (s : Text) : (normalise s).words = s.words := by
  show (unlines (normalLines s)).words = s.words
  rw [words_unlines, normalLines, flatMap_filter_isEmpty words_nil, List.flatMap_map]
  simp only [words_normaliseLine]
  rw [← words_unlines, unlines_lines]

theorem bareEnds_normalise (s : Text) : (normalise s).BareEnds := by
  show (unlines (normalLines s)).BareEnds
  refine bareEnds_unlines ?_
  intro l hl
  obtain ⟨hmem, hne⟩ := List.mem_filter.1 hl
  obtain ⟨line, -, rfl⟩ := List.mem_map.1 hmem
  exact ⟨by simpa using hne, bareEnds_normaliseLine line⟩

/-- A normalised text holds nothing new but spaces and line feeds. -/
theorem mem_of_mem_normalise {s : Text} {c : Char} (h : c ∈ normalise s) :
    c = ' ' ∨ c = '\n' ∨ c ∈ s := by
  rcases mem_intercalate h with hfeed | ⟨l, hl, hc⟩
  · exact Or.inr (Or.inl hfeed)
  · obtain ⟨line, hline, rfl⟩ := List.mem_map.1 (List.mem_filter.1 hl).1
    rcases mem_of_mem_normaliseLine hc with hspace | hmem
    · exact Or.inl hspace
    · exact Or.inr (Or.inr (mem_of_mem_lines hline hmem).1)

/-! ### The rewritten line -/

/-- The line that takes the place of the one with the commented filter. -/
def CommentedFilter.activeLine (found : CommentedFilter) : Text :=
  codePart found.before ++ ' ' :: found.clause

theorem mem_of_mem_codePart {line : Text} {c : Char} (h : c ∈ codePart line) : c ∈ line :=
  mem_of_mem_trim ((cutMarkers_isPrefix _).subset h)

/-- The rewritten line is made of the characters of the old one and a space. -/
theorem CommentedFilter.mem_activeLine {s : Text} {found : CommentedFilter} {c : Char}
    (h : commentedFilter? s = some found) (hc : c ∈ found.activeLine) :
    c = ' ' ∨ (c ∈ s ∧ c ≠ '\n') := by
  obtain ⟨line, m, comment, hline, hcut, hclause, -⟩ := exists_of_commentedFilter? h
  have hmem : line ∈ s.lines := List.mem_of_getElem? hline
  have heq := eq_append_of_breakAt? hcut
  rcases List.mem_append.1 hc with hcode | hrest
  · refine Or.inr (mem_of_mem_lines hmem ?_)
    rw [heq]
    exact List.mem_append_left _ (mem_of_mem_codePart hcode)
  · rcases List.mem_cons.1 hrest with hspace | hcl
    · exact Or.inl hspace
    · refine Or.inr (mem_of_mem_lines hmem ?_)
      rw [hclause] at hcl
      rw [heq]
      exact List.mem_append_right _ (List.mem_append_right _ (mem_of_mem_trim hcl))

theorem CommentedFilter.not_mem_of_mem_set {s l : Text} {found : CommentedFilter}
    (h : commentedFilter? s = some found)
    (hl : l ∈ s.lines.set found.line found.activeLine) : '\n' ∉ l := by
  intro hc
  rcases List.mem_or_eq_of_mem_set hl with hold | rfl
  · exact feed_not_mem_of_mem_lines hold hc
  · rcases mem_activeLine h hc with hspace | ⟨-, hfeed⟩
    · exact absurd hspace (by decide)
    · exact hfeed rfl

theorem mem_of_mem_uncomment {s : Text} {found : CommentedFilter} {c : Char}
    (h : commentedFilter? s = some found) (hc : c ∈ uncomment s found) :
    c = ' ' ∨ c = '\n' ∨ c ∈ s := by
  rcases mem_of_mem_normalise hc with hspace | hfeed | hmem
  · exact Or.inl hspace
  · exact Or.inr (Or.inl hfeed)
  · rcases mem_intercalate hmem with hfeed | ⟨l, hl, hcl⟩
    · exact Or.inr (Or.inl hfeed)
    · rcases List.mem_or_eq_of_mem_set hl with hold | rfl
      · exact Or.inr (Or.inr (mem_of_mem_lines hold hcl).1)
      · rcases found.mem_activeLine h hcl with hspace | ⟨hcs, -⟩
        · exact Or.inl hspace
        · exact Or.inr (Or.inr hcs)

/-! ### Activation -/

theorem hasActiveFilter_nil : hasActiveFilter [] = false := by
  decide

/-- When a filter is put into effect, and what comes of it. -/
theorem activate?_eq_some_iff {s : Text} {a : Activation} :
    activate? s = some a ↔
      ∃ found, commentedFilter? s = some found ∧ a.text = uncomment s found ∧
        a.clause = found.clause ∧ hasActiveFilter a.text = true := by
  unfold activate?
  cases hfound : commentedFilter? s with
  | none => simp
  | some found =>
      by_cases hactive : hasActiveFilter (uncomment s found) = true
      · simp only [hactive, if_true, Option.some.injEq, exists_eq_left']
        constructor
        · rintro rfl
          exact ⟨rfl, rfl, hactive⟩
        · rintro ⟨htext, hclause, -⟩
          rw [← htext, ← hclause]
      · simp only [hactive]
        constructor
        · intro h
          simp at h
        · rintro ⟨found', hfound', htext, -, hact⟩
          rw [Option.some.inj hfound', ← htext, hact] at hactive
          exact absurd rfl hactive

/-- A statement whose filter is put into effect is a statement. -/
theorem IsStatement.activation {s : Text} {a : Activation} (hs : IsStatement s)
    (h : activate? s = some a) : IsStatement a.text := by
  obtain ⟨found, hfound, htext, -, hactive⟩ := activate?_eq_some_iff.1 h
  refine ⟨?_, ?_, ?_⟩
  · intro hnil
    rw [hnil, hasActiveFilter_nil] at hactive
    simp at hactive
  · intro hc
    rw [htext] at hc
    rcases mem_of_mem_uncomment hfound hc with hspace | hfeed | hmem
    · exact absurd hspace (by decide)
    · exact absurd hfeed (by decide)
    · exact hs.undivided hmem
  · rw [htext]
    exact bareEnds_normalise _

/-! ### The statement a repair leaves -/

/-- Whether a statement is one that repairs are for: it can change every row, and its only
filter is commented out. -/
def isRepairable (s : Text) : Bool :=
  needsFilter (kind s) && !hasActiveFilter s && hasCommentedFilter s

theorem isRepairable_iff {s : Text} :
    isRepairable s = true ↔
      needsFilter (kind s) = true ∧ hasActiveFilter s = false ∧ hasCommentedFilter s = true := by
  simp [isRepairable, and_assoc]

/-- The repair of a statement, if it is repairable and a repair takes effect. -/
def repairOf? (s : Text) : Option Activation :=
  if isRepairable s then activate? s else none

/-- The statement that a repair puts in the place of another. -/
def mended (s : Text) : Text :=
  if isRepairable s then Activation.textOr s (activate? s) else s

theorem textOr_repairOf? (s : Text) : Activation.textOr s (repairOf? s) = mended s := by
  unfold repairOf? mended
  by_cases h : isRepairable s = true
  · rw [if_pos h, if_pos h]
  · rw [if_neg h, if_neg h]; rfl

theorem mended_of_valid {rules : Rules} {index : Int} {s : Text}
    (h : (checkStatement rules index s).valid = true) : mended s = s := by
  simp [mended, isRepairable, not_hasCommentedFilter_of_valid h]

/-- **The rules have no say in what is repaired.**  A statement with a commented filter is
invalid whatever they are, and no other is repaired. -/
theorem needsRepair_checkStatement (rules : Rules) (index : Int) (s : Text) :
    needsRepair s (checkStatement rules index s) = isRepairable s := by
  unfold needsRepair isRepairable
  rw [checkStatement_kind]
  by_cases h : hasCommentedFilter s = true
  · rw [checkStatement_of_commented h]
    simp
  · simp [h]

theorem repairStatement?_checkStatement (rules : Rules) (index : Int) (s : Text) :
    repairStatement? s (checkStatement rules index s) = repairOf? s := by
  unfold repairStatement? repairOf?
  rw [needsRepair_checkStatement]

theorem repairOf?_eq_some_iff {s : Text} {a : Activation} :
    repairOf? s = some a ↔ isRepairable s = true ∧ activate? s = some a := by
  unfold repairOf?
  by_cases h : isRepairable s = true
  · simp [h]
  · simp [h]

/-- A rewrite always shows: it brings the active filter that the statement did not have. -/
theorem mended_eq_self_iff {s : Text} : mended s = s ↔ repairOf? s = none := by
  rw [← textOr_repairOf?]
  cases hrep : repairOf? s with
  | none => simp [Activation.textOr]
  | some a =>
      obtain ⟨hs, hact⟩ := repairOf?_eq_some_iff.1 hrep
      obtain ⟨-, -, -, -, hactive⟩ := activate?_eq_some_iff.1 hact
      have hne : a.text ≠ s := by
        intro heq
        rw [heq, (isRepairable_iff.1 hs).2.1] at hactive
        simp at hactive
      simp [Activation.textOr, hne]

/-- A statement that is not the one it was had its commented filter put into effect. -/
theorem exists_of_mended_ne {s : Text} (h : mended s ≠ s) :
    ∃ found, commentedFilter? s = some found ∧ isRepairable s = true ∧
      repairOf? s = some { text := mended s, clause := found.clause } ∧
      mended s = uncomment s found ∧ hasActiveFilter (mended s) = true := by
  cases hrep : repairOf? s with
  | none => exact absurd (mended_eq_self_iff.2 hrep) h
  | some a =>
      obtain ⟨hs, hact⟩ := repairOf?_eq_some_iff.1 hrep
      obtain ⟨found, hfound, htext, hclause, hactive⟩ := activate?_eq_some_iff.1 hact
      have heq : mended s = a.text := by rw [← textOr_repairOf?, hrep]; rfl
      refine ⟨found, hfound, hs, ?_, heq.trans htext, heq ▸ hactive⟩
      rw [heq, ← hclause]

theorem IsStatement.mended {s : Text} (hs : IsStatement s) : IsStatement (mended s) := by
  rw [← textOr_repairOf?]
  cases hrep : repairOf? s with
  | none => exact hs
  | some a => exact hs.activation (repairOf?_eq_some_iff.1 hrep).2

/-- **Nothing is rewritten twice.** -/
theorem mended_mended (s : Text) : mended (mended s) = mended s := by
  by_cases h : mended s = s
  · rw [h, h]
  · obtain ⟨found, -, -, -, -, hactive⟩ := exists_of_mended_ne h
    rw [mended_eq_self_iff]
    cases hrep : repairOf? (mended s) with
    | none => rfl
    | some a =>
        obtain ⟨-, hinactive, -⟩ := isRepairable_iff.1 (repairOf?_eq_some_iff.1 hrep).1
        rw [hinactive] at hactive
        simp at hactive

end SqlGuard
