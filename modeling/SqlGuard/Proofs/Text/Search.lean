/-
Finding a mark.

`breakAt?` is defined by a walk that carries what it has passed.  Here it gets the
equations one reasons with: `breakAt?_cons` peels off one character, and
`breakAt?_append` says what happens at a seam, a character that belongs to no mark.  A
mark cannot straddle a seam, so a text is searched up to the seam and then behind it.
The marks the scanners look for are not empty and hold no blank (`IsMark`), so every
blank is a seam for them, and lines can be joined and clauses moved without disturbing
what the scanners find.

Whether a search succeeds at all does not depend on the walk: it does when the text has a
place that fits (`hasCut_iff`), and a mark is found when the text holds it.

`upTo_comm` is the one fact about two marks: cutting at both gives the same text in
either order, because marks of different characters do not overlap.
-/
import Mathlib.Data.List.Basic
import SqlGuard.Text.Basic

namespace SqlGuard.Text

/-- What the scanners look for. -/
structure IsMark (mark : Text) : Prop where
  nonempty : mark ≠ []
  solid : ∀ c ∈ mark, isBlank c = false

theorem IsMark.not_mem {mark : Text} {c : Char} (h : IsMark mark) (hc : isBlank c = true) :
    c ∉ mark := by
  intro hmem
  rw [h.solid c hmem] at hc
  simp at hc

theorem isMark_pair {a b : Char} (ha : isBlank a = false) (hb : isBlank b = false) :
    IsMark [a, b] := by
  refine ⟨by simp, ?_⟩
  intro c hc
  simp only [List.mem_cons, List.not_mem_nil, or_false] at hc
  rcases hc with rfl | rfl
  · exact ha
  · exact hb

/-! ### One character at a time -/

/-- While the condition looks only ahead, the walk does not depend on what it passed. -/
private theorem go_passed (ahead : Text → Bool) (passed s : Text) :
    firstCut?.go (fun _ after => ahead after) passed s =
      (firstCut?.go (fun _ after => ahead after) [] s).map fun cut =>
        (passed.reverse ++ cut.1, cut.2) := by
  induction s generalizing passed with
  | nil =>
      unfold firstCut?.go
      by_cases h : ahead [] = true
      · simp [h]
      · simp [h]
  | cons c s ih =>
      unfold firstCut?.go
      by_cases h : ahead (c :: s) = true
      · simp [h]
      · rw [if_neg h, if_neg h, ih (c :: passed), ih [c], Option.map_map]
        congr 1
        funext cut
        simp

theorem breakAt?_nil {mark : Text} (hmark : mark ≠ []) : breakAt? mark [] = none := by
  have hp : mark.isPrefixOf [] = false := by
    cases mark with
    | nil => exact absurd rfl hmark
    | cons m mark => rfl
  simp [breakAt?, firstCut?, firstCut?.go, hp]

/-- A mark is found where the text starts with it, or else behind the first character. -/
theorem breakAt?_cons (mark : Text) (c : Char) (s : Text) :
    breakAt? mark (c :: s) =
      if mark.isPrefixOf (c :: s) then some ([], (c :: s).drop mark.length)
      else (breakAt? mark s).map fun cut => (c :: cut.1, cut.2) := by
  unfold breakAt? firstCut?
  rw [firstCut?.go]
  by_cases h : mark.isPrefixOf (c :: s) = true
  · rw [if_pos h, if_pos h]
    simp
  · rw [if_neg h, if_neg h, go_passed, Option.map_map, Option.map_map]
    rfl

/-- No mark starts at a character that it does not hold. -/
theorem isPrefixOf_cons_of_not_mem {mark : Text} {c : Char} (hmark : mark ≠ []) (hc : c ∉ mark)
    (s : Text) : mark.isPrefixOf (c :: s) = false := by
  cases mark with
  | nil => exact absurd rfl hmark
  | cons m mark =>
      simp only [List.mem_cons, not_or] at hc
      simp [List.isPrefixOf, Ne.symm hc.1]

theorem breakAt?_cons_of_not_mem {mark : Text} {c : Char} (hmark : mark ≠ []) (hc : c ∉ mark)
    (s : Text) :
    breakAt? mark (c :: s) = (breakAt? mark s).map fun cut => (c :: cut.1, cut.2) := by
  rw [breakAt?_cons, isPrefixOf_cons_of_not_mem hmark hc, if_neg (by simp)]

/-- The mark is not found again in what precedes its first occurrence. -/
theorem breakAt?_before {mark s before after : Text} (hmark : mark ≠ [])
    (h : breakAt? mark s = some (before, after)) : breakAt? mark before = none := by
  induction s generalizing before with
  | nil => rw [breakAt?_nil hmark] at h; simp at h
  | cons c s ih =>
      rw [breakAt?_cons] at h
      by_cases hp : mark.isPrefixOf (c :: s) = true
      · rw [if_pos hp] at h
        simp only [Option.some.injEq, Prod.mk.injEq] at h
        rw [← h.1]
        exact breakAt?_nil hmark
      · rw [if_neg hp] at h
        obtain ⟨⟨b, a⟩, hcut, heq⟩ := Option.map_eq_some_iff.1 h
        simp only [Prod.mk.injEq] at heq
        obtain ⟨rfl, rfl⟩ := heq
        -- A mark at the head of `c :: b` would be one at the head of the whole text.
        have hnot : mark.isPrefixOf (c :: b) = false := by
          rw [Bool.eq_false_iff]
          intro hc
          have hb : c :: b <+: c :: s := by
            rw [eq_append_of_breakAt? hcut]
            exact List.prefix_append (c :: b) _
          exact hp (List.isPrefixOf_iff_prefix.2 ((List.isPrefixOf_iff_prefix.1 hc).trans hb))
        rw [breakAt?_cons, hnot, if_neg (by simp), ih hcut]
        rfl

/-- No occurrence of a mark comes before the one that is found. -/
theorem length_le_of_breakAt? {mark s before after p q : Text}
    (h : breakAt? mark s = some (before, after)) (hs : s = p ++ (mark ++ q)) :
    before.length ≤ p.length := by
  induction s generalizing before p with
  | nil =>
      have hcut := eq_append_of_breakAt? h
      obtain ⟨rfl, -⟩ := List.append_eq_nil_iff.1 hcut.symm
      exact Nat.zero_le _
  | cons c s ih =>
      rw [breakAt?_cons] at h
      by_cases hp : mark.isPrefixOf (c :: s) = true
      · rw [if_pos hp] at h
        simp only [Option.some.injEq, Prod.mk.injEq] at h
        rw [← h.1]
        exact Nat.zero_le _
      · rw [if_neg hp] at h
        obtain ⟨⟨b, a⟩, hcut, heq⟩ := Option.map_eq_some_iff.1 h
        simp only [Prod.mk.injEq] at heq
        obtain ⟨rfl, rfl⟩ := heq
        cases p with
        | nil =>
            refine absurd (List.isPrefixOf_iff_prefix.2 ?_) hp
            rw [hs]
            exact List.prefix_append mark q
        | cons d p =>
            have hle := ih hcut (List.cons.inj hs).2
            simpa using hle

/-! ### Whether anything is found -/

private theorem isSome_go_iff (fits : Text → Text → Bool) (passed s : Text) :
    (firstCut?.go fits passed s).isSome = true ↔
      ∃ u v, s = u ++ v ∧ fits (u.reverse ++ passed) v = true := by
  induction s generalizing passed with
  | nil =>
      rw [firstCut?.go]
      by_cases hc : fits passed [] = true
      · rw [if_pos hc]
        exact iff_of_true rfl ⟨[], [], rfl, hc⟩
      · rw [if_neg hc]
        refine iff_of_false (by simp) ?_
        rintro ⟨u, v, huv, hfits⟩
        obtain ⟨rfl, rfl⟩ := List.append_eq_nil_iff.1 huv.symm
        exact hc hfits
  | cons c s ih =>
      rw [firstCut?.go]
      by_cases hc : fits passed (c :: s) = true
      · rw [if_pos hc]
        exact iff_of_true rfl ⟨[], c :: s, rfl, hc⟩
      · rw [if_neg hc, ih]
        constructor
        · rintro ⟨u, v, rfl, hfits⟩
          exact ⟨c :: u, v, rfl, by simpa using hfits⟩
        · rintro ⟨u, v, huv, hfits⟩
          cases u with
          | nil =>
              obtain rfl : c :: s = v := huv
              exact absurd hfits hc
          | cons d u =>
              obtain ⟨rfl, rfl⟩ := List.cons.inj huv
              exact ⟨u, v, rfl, by simpa using hfits⟩

/-- A cut is found exactly when the text has one that fits. -/
theorem hasCut_iff {fits : Text → Text → Bool} {s : Text} :
    hasCut fits s = true ↔ ∃ u v, s = u ++ v ∧ fits u.reverse v = true := by
  unfold hasCut firstCut?
  simpa using isSome_go_iff fits [] s

theorem mentions_iff {phrase s : Text} : mentions phrase s = true ↔ phrase <:+: s := by
  unfold mentions
  rw [hasCut_iff]
  constructor
  · rintro ⟨u, v, rfl, hp⟩
    exact (List.isPrefixOf_iff_prefix.1 hp).isInfix.trans (List.suffix_append u v).isInfix
  · rintro ⟨u, v, rfl⟩
    exact ⟨u, phrase ++ v, List.append_assoc ..,
      List.isPrefixOf_iff_prefix.2 (List.prefix_append ..)⟩

theorem breakAt?_eq_none_iff {mark s : Text} : breakAt? mark s = none ↔ ¬ mark <:+: s := by
  have hsome : (breakAt? mark s).isSome = mentions mark s := by
    simp [breakAt?, mentions, hasCut]
  rw [← mentions_iff, ← hsome]
  simp

/-- Two neighbours in a text that was put together stand in one of its parts, or on both sides
of the seam. -/
theorem pair_infix_append {a b : Char} {u v : Text} (h : [a, b] <:+: u ++ v) :
    [a, b] <:+: u ∨ [a, b] <:+: v ∨ ([a] <:+ u ∧ [b] <+: v) := by
  rcases List.infix_append_iff_ne_nil.1 h with hu | hv | ⟨x, y, hx, hy, hxy, hxu, hyv⟩
  · exact Or.inl hu
  · exact Or.inr (Or.inl hv)
  · obtain ⟨c, x, rfl⟩ := List.exists_cons_of_ne_nil hx
    obtain ⟨d, y, rfl⟩ := List.exists_cons_of_ne_nil hy
    cases x with
    | nil =>
        simp only [List.cons_append, List.nil_append, List.cons.injEq] at hxy
        obtain ⟨rfl, rfl, rfl⟩ := hxy
        exact Or.inr (Or.inr ⟨hxu, hyv⟩)
    | cons e x => simp at hxy

/-- A phrase that holds a character once, in a text put together at this character: it stands
on one side, or with that character at the seam. -/
theorem infix_append_cons_iff {c : Char} {p q u v : Text} (hp : c ∉ p) (hq : c ∉ q) :
    p ++ c :: q <:+: u ++ c :: v ↔
      p ++ c :: q <:+: u ∨ p <:+ u ∧ q <+: v ∨ p ++ c :: q <:+: v := by
  constructor
  · intro h
    rcases List.infix_append_iff_ne_nil.1 h with hu | hv | ⟨x, y, -, hy, hxy, hxu, hyv⟩
    · exact Or.inl hu
    · rcases List.infix_cons_iff.1 hv with hstart | hrest
      · cases p with
        | nil => exact Or.inr (Or.inl ⟨List.nil_suffix, (List.cons_prefix_cons.1 hstart).2⟩)
        | cons d p => exact absurd (by simp [(List.cons_prefix_cons.1 hstart).1]) hp
      · exact Or.inr (Or.inr hrest)
    · obtain ⟨d, y, rfl⟩ := List.exists_cons_of_ne_nil hy
      obtain ⟨rfl, hrest⟩ := List.cons_prefix_cons.1 hyv
      obtain ⟨rfl, -, rfl⟩ := (List.append_cons_inj_of_notMem hp hq).1 hxy
      exact Or.inr (Or.inl ⟨hxu, hrest⟩)
  · rintro (hu | ⟨⟨a, rfl⟩, ⟨b, rfl⟩⟩ | hv)
    · exact hu.trans (List.prefix_append u _).isInfix
    · exact ⟨a, b, by simp⟩
    · exact hv.trans ((List.suffix_cons c v).trans (List.suffix_append u _)).isInfix

/-! ### Seams -/

/-- No prefix reaches across a character that it does not hold. -/
theorem isPrefixOf_append_seam {mark u v : Text} {c : Char} (hc : c ∉ mark) :
    mark.isPrefixOf (u ++ c :: v) = mark.isPrefixOf u := by
  induction mark generalizing u with
  | nil => simp
  | cons m mark ih =>
      simp only [List.mem_cons, not_or] at hc
      cases u with
      | nil => simp [List.isPrefixOf, Ne.symm hc.1]
      | cons d u => simp [List.isPrefixOf, ih hc.2]

/-- No suffix does, either. -/
theorem suffix_of_suffix_append_seam {w u v : Text} {c : Char} (hc : c ∉ w)
    (h : w <:+ u ++ c :: v) : w <:+ v := by
  rcases List.suffix_or_suffix_of_suffix h (List.suffix_append u (c :: v)) with hw | hw
  · rcases List.suffix_cons_iff.1 hw with rfl | hv
    · exact absurd List.mem_cons_self hc
    · exact hv
  · exact absurd (hw.subset List.mem_cons_self) hc

/-- **A mark is sought before a seam and then behind it.** -/
theorem breakAt?_append {mark : Text} {c : Char} (hmark : mark ≠ []) (hc : c ∉ mark)
    (u v : Text) :
    breakAt? mark (u ++ c :: v) =
      match breakAt? mark u with
      | some cut => some (cut.1, cut.2 ++ c :: v)
      | none => (breakAt? mark v).map fun cut => (u ++ c :: cut.1, cut.2) := by
  induction u with
  | nil =>
      rw [breakAt?_nil hmark, List.nil_append, breakAt?_cons_of_not_mem hmark hc]
      simp
  | cons d u ih =>
      have hseam := isPrefixOf_append_seam (u := d :: u) (v := v) hc
      rw [List.cons_append] at hseam
      rw [List.cons_append, breakAt?_cons, breakAt?_cons, hseam]
      by_cases hp : mark.isPrefixOf (d :: u) = true
      · have hle : mark.length ≤ (d :: u).length :=
          (List.isPrefixOf_iff_prefix.1 hp).length_le
        rw [if_pos hp, if_pos hp, ← List.cons_append, List.drop_append_of_le_length hle]
      · rw [if_neg hp, if_neg hp, ih]
        cases breakAt? mark u with
        | some cut => simp
        | none => simp [Option.map_map, Function.comp_def]

/-- A mark of two different characters is found where it stands, if not before. -/
theorem breakAt?_append_pair {a b : Char} (hab : a ≠ b) {u : Text}
    (hu : breakAt? [a, b] u = none) (v : Text) :
    breakAt? [a, b] (u ++ ([a, b] ++ v)) = some (u, v) := by
  induction u with
  | nil => simp [breakAt?_cons, List.isPrefixOf]
  | cons c u ih =>
      rw [breakAt?_cons] at hu
      by_cases hp : [a, b].isPrefixOf (c :: u) = true
      · rw [if_pos hp] at hu
        simp at hu
      · rw [if_neg hp, Option.map_eq_none_iff] at hu
        -- The mark cannot start at `c` and end in the mark that follows.
        have hnot : ¬ [a, b].isPrefixOf (c :: (u ++ ([a, b] ++ v))) = true := by
          cases u with
          | nil => simp [List.isPrefixOf, hab.symm]
          | cons d u => simpa [List.isPrefixOf] using hp
        rw [List.cons_append, breakAt?_cons, if_neg hnot, ih hu]
        rfl

/-- A doubled character is found where it stands, if neither it nor its half comes before. -/
theorem breakAt?_append_double {a : Char} {u : Text} (hu : breakAt? [a, a] u = none)
    (hlast : u.getLast? ≠ some a) (v : Text) :
    breakAt? [a, a] (u ++ ([a, a] ++ v)) = some (u, v) := by
  induction u with
  | nil => simp [breakAt?_cons, List.isPrefixOf]
  | cons c u ih =>
      rw [breakAt?_cons] at hu
      by_cases hp : [a, a].isPrefixOf (c :: u) = true
      · rw [if_pos hp] at hu
        simp at hu
      · rw [if_neg hp, Option.map_eq_none_iff] at hu
        -- Only the last character before the mark could be the first half of one.
        have hnot : ¬ [a, a].isPrefixOf (c :: (u ++ ([a, a] ++ v))) = true := by
          cases u with
          | nil =>
              have hc : a ≠ c := by
                rintro rfl
                exact hlast rfl
              simp [List.isPrefixOf, hc]
          | cons d u => simpa [List.isPrefixOf] using hp
        have hrest : u.getLast? ≠ some a := by
          cases u with
          | nil => simp
          | cons d u => rwa [List.getLast?_cons_cons] at hlast
        rw [List.cons_append, breakAt?_cons, if_neg hnot, ih hu hrest]
        rfl

/-! ### The text up to a mark -/

@[simp]
theorem upTo_nil {mark : Text} (hmark : mark ≠ []) : upTo mark [] = [] := by
  simp [upTo, breakAt?_nil hmark]

theorem upTo_cons (mark : Text) (c : Char) (s : Text) :
    upTo mark (c :: s) = if mark.isPrefixOf (c :: s) then [] else c :: upTo mark s := by
  unfold upTo
  rw [breakAt?_cons]
  by_cases hp : mark.isPrefixOf (c :: s) = true
  · simp [hp]
  · rw [if_neg hp, if_neg hp]
    cases breakAt? mark s <;> rfl

theorem upTo_cons_of_not_mem {mark : Text} {c : Char} (hmark : mark ≠ []) (hc : c ∉ mark)
    (s : Text) : upTo mark (c :: s) = c :: upTo mark s := by
  rw [upTo_cons, isPrefixOf_cons_of_not_mem hmark hc, if_neg (by simp)]

theorem upTo_isPrefix (mark s : Text) : upTo mark s <+: s := by
  unfold upTo
  cases h : breakAt? mark s with
  | none => exact List.prefix_rfl
  | some cut =>
      rw [eq_append_of_breakAt? h]
      exact List.prefix_append _ _

theorem breakAt?_upTo {mark : Text} (hmark : mark ≠ []) (s : Text) :
    breakAt? mark (upTo mark s) = none := by
  unfold upTo
  cases h : breakAt? mark s with
  | none => exact h
  | some cut => exact breakAt?_before hmark h

theorem upTo_eq_self {mark s : Text} (h : breakAt? mark s = none) : upTo mark s = s := by
  simp [upTo, h]

@[simp]
theorem upTo_upTo {mark : Text} (hmark : mark ≠ []) (s : Text) :
    upTo mark (upTo mark s) = upTo mark s :=
  upTo_eq_self (breakAt?_upTo hmark s)

/-- A cut behind a seam leaves what stands before it. -/
theorem upTo_append_of_none {mark u : Text} {c : Char} (hmark : mark ≠ []) (hc : c ∉ mark)
    (hu : breakAt? mark u = none) (v : Text) :
    upTo mark (u ++ c :: v) = u ++ c :: upTo mark v := by
  unfold upTo
  rw [breakAt?_append hmark hc, hu]
  cases breakAt? mark v <;> rfl

/-- A cut before a seam drops all that stands behind it. -/
theorem upTo_append_of_some {mark u : Text} {c : Char} {cut : Text × Text} (hmark : mark ≠ [])
    (hc : c ∉ mark) (hu : breakAt? mark u = some cut) (v : Text) :
    upTo mark (u ++ c :: v) = upTo mark u := by
  unfold upTo
  rw [breakAt?_append hmark hc, hu]

/-! ### Two marks -/

/-- A doubled character as a mark. -/
private theorem isPrefixOf_pair (a c : Char) (s : Text) :
    [a, a].isPrefixOf (c :: s) = true ↔ c = a ∧ s.head? = some a := by
  cases s with
  | nil => simp [List.isPrefixOf]
  | cons d s =>
      simp only [List.isPrefixOf, Bool.and_true, Bool.and_eq_true, beq_iff_eq, List.head?_cons,
        Option.some.injEq]
      exact ⟨fun h => ⟨h.1.symm, h.2.symm⟩, fun h => ⟨h.1.symm, h.2.symm⟩⟩

/-- Cutting at a doubled character keeps the first character of a text that does not start
with it. -/
private theorem head?_upTo_pair {a : Char} {s : Text}
    (h : [a, a].isPrefixOf s = false) : (upTo [a, a] s).head? = s.head? := by
  cases s with
  | nil => simp
  | cons c s => rw [upTo_cons, h, if_neg (by simp)]; rfl

/-- The two cuts of a text at doubled characters can be made in either order. -/
theorem upTo_comm {a b : Char} (hab : a ≠ b) (s : Text) :
    upTo [a, a] (upTo [b, b] s) = upTo [b, b] (upTo [a, a] s) := by
  induction s with
  | nil => simp
  | cons c s ih =>
      -- Only one of the marks can start here, and the cut at the other keeps it whole.
      have keeps : ∀ x y : Char, x ≠ y → [x, x].isPrefixOf (c :: s) = true →
          upTo [x, x] (upTo [y, y] (c :: s)) = [] := by
        intro x y hxy hx
        obtain ⟨hcx, hs⟩ := (isPrefixOf_pair x c s).1 hx
        have hy : [y, y].isPrefixOf (c :: s) = false := by
          rw [Bool.eq_false_iff]
          intro hy
          exact hxy (hcx.symm.trans ((isPrefixOf_pair y c s).1 hy).1)
        have hys : [y, y].isPrefixOf s = false := by
          rw [Bool.eq_false_iff]
          intro hy
          cases s with
          | nil => simp at hs
          | cons d s =>
              have hdx : d = x := by simpa using hs
              exact hxy (hdx.symm.trans ((isPrefixOf_pair y d s).1 hy).1)
        rw [upTo_cons [y, y], hy, if_neg (by simp), upTo_cons]
        have hx' : [x, x].isPrefixOf (c :: upTo [y, y] s) = true :=
          (isPrefixOf_pair x c _).2 ⟨hcx, by rw [head?_upTo_pair hys]; exact hs⟩
        rw [if_pos hx']
      by_cases ha : [a, a].isPrefixOf (c :: s) = true
      · rw [keeps a b hab ha, upTo_cons [a, a], if_pos ha, upTo_nil (by simp)]
      · by_cases hb : [b, b].isPrefixOf (c :: s) = true
        · rw [keeps b a hab.symm hb, upTo_cons [b, b], if_pos hb, upTo_nil (by simp)]
        · have step : ∀ x y : Char, ¬ [x, x].isPrefixOf (c :: s) = true →
              upTo [x, x] (c :: upTo [y, y] s) = c :: upTo [x, x] (upTo [y, y] s) := by
            intro x y hx
            rw [upTo_cons, if_neg]
            intro hc
            refine hx (List.isPrefixOf_iff_prefix.2 ?_)
            exact (List.isPrefixOf_iff_prefix.1 hc).trans
              ((List.prefix_cons_inj c).2 (upTo_isPrefix [y, y] s))
          rw [upTo_cons [b, b], if_neg hb, upTo_cons [a, a] c s, if_neg ha, step a b ha,
            step b a hb, ih]

end SqlGuard.Text
