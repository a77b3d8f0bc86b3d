/-
Reading a word off the upper case.

The filter word is recognised in two ways.  The detectors compare a text with it letter by
letter and relate only the two cases of ASCII; the extractor takes the upper case of the whole
text, which is the full mapping of every script, and looks for the word in capitals.  These
could differ: characters beyond ASCII have upper cases that start with an H or a W, and some
become one plain letter, as the dotless i does.

They do not differ for this word.  No single capital of it is reached from outside ASCII, and a
text of several characters that replaces one never fits into a tail of the word.  So a tail of
the word is read off the upper case exactly when its letters stand there (`prefix_upper_iff`).
-/
import Mathlib.Data.List.Infix
import SqlGuard.Proofs.Text.Lines

namespace SqlGuard.Text

/-! ### One character at a time -/

theorem upper_append (u v : Text) : upper (u ++ v) = u.upper ++ v.upper :=
  List.flatMap_append

theorem upper_cons (c : Char) (s : Text) : upper (c :: s) = upperChar c ++ s.upper :=
  List.flatMap_cons

theorem upperChar_ne_nil (c : Char) : upperChar c ≠ [] := by
  have htable : ∀ e ∈ caseExpansions, e.2 ≠ [] := by decide
  unfold upperChar upperWide
  by_cases hascii : c.toNat < 128
  · rw [if_pos hascii]; simp
  · rw [if_neg hascii]
    cases caseRuns.find? (·.contains c.toNat) with
    | some r => simp
    | none =>
        cases hlookup : caseExpansions.lookup c.toNat with
        | none => simp
        | some codes =>
            obtain ⟨l₁, l₂, htab, -⟩ := List.lookup_eq_some_iff.1 hlookup
            simpa using htable (c.toNat, codes) (by rw [htab]; simp)

theorem upperChar_of_isBlank {c : Char} (h : isBlank c = true) : upperChar c = [c] :=
  of_isBlank (p := fun c => upperChar c = [c]) (by decide +kernel) h

theorem mem_upper_of_fixed {c : Char} {w : Text} (hc : upperChar c = [c]) (h : c ∈ w) :
    c ∈ w.upper :=
  List.mem_flatMap.2 ⟨c, h, by rw [hc]; exact List.mem_cons_self⟩

/-! ### Letters -/

/-- Only the capitals of ASCII have another lower case. -/
theorem toLower_eq_self {c : Char} (h : ¬ (65 ≤ c.toNat ∧ c.toNat ≤ 90)) : c.toLower = c := by
  unfold Char.toLower
  split
  · rename_i hupper
    rw [ge_iff_le, UInt32.le_iff_toNat_le, UInt32.le_iff_toNat_le] at hupper
    exact absurd hupper h
  · rfl

/-- A character has the lower case of a letter of the word exactly when it is an ASCII character
with that letter for its upper case. -/
theorem toLower_eq_iff {c x : Char} (hx : x ∈ "WHERE".toList) :
    c.toLower = x.toLower ↔ c.toNat < 128 ∧ c.toUpper = x := by
  have hascii : ∀ n ∈ List.range 128, "WHERE".toList.all (fun x =>
      decide ((Char.ofNat n).toLower = x.toLower) == decide ((Char.ofNat n).toUpper = x)) := by
    decide +kernel
  have hsmall : ∀ x ∈ "WHERE".toList, x.toLower.toNat < 128 := by simp
  by_cases hc : c.toNat < 128
  · have h := List.all_eq_true.1 (hascii c.toNat (List.mem_range.2 hc)) x hx
    rw [Char.ofNat_toNat, beq_iff_eq, decide_eq_decide] at h
    simp [hc, h]
  · refine iff_of_false ?_ (fun h => hc h.1)
    intro heq
    rw [toLower_eq_self (by omega)] at heq
    exact hc (heq ▸ hsmall x hx)

/-! ### Characters beyond ASCII -/

private theorem toNat_ofNat_cases (n : Nat) :
    (Char.ofNat n).toNat = n ∨ (Char.ofNat n).toNat = 0 := by
  unfold Char.ofNat
  by_cases h : n.isValidChar
  · rw [dif_pos h]
    exact Or.inl rfl
  · rw [dif_neg h]
    exact Or.inr rfl

/-- A run that leads beyond ASCII, or leads into it with a single character, leads to none of
some letters if that one does not. -/
theorem caseRun_apply_not_mem {letters : Text}
    (hletters : ∀ x ∈ letters, 0 < x.toNat ∧ x.toNat < 128) {r : CaseRun}
    (hr : 128 ≤ r.first + r.shift ∨ r.first = r.last ∧ r.apply r.first ∉ letters) {n : Nat}
    (hn : r.contains n = true) : r.apply n ∉ letters := by
  simp only [CaseRun.contains, Bool.and_eq_true, decide_eq_true_eq] at hn
  rcases hr with hwide | ⟨hone, hnot⟩
  · intro hmem
    obtain ⟨hpos, hlt⟩ := hletters _ hmem
    rcases toNat_ofNat_cases (n + r.shift).toNat with hcode | hzero
    · rw [CaseRun.apply, hcode] at hlt
      omega
    · rw [CaseRun.apply, hzero] at hpos
      omega
  · have hfirst : n = r.first := by omega
    rw [hfirst]
    exact hnot

/-- A character with a run of its own never becomes a letter of the word: two runs lead into
ASCII, the dotless i and the long s. -/
private theorem apply_not_mem {r : CaseRun} {n : Nat} (hr : r ∈ caseRuns)
    (hn : r.contains n = true) : r.apply n ∉ "WHERE".toList := by
  have hruns : ∀ r ∈ caseRuns, 128 ≤ r.first + r.shift ∨
      r.first = r.last ∧ r.apply r.first ∉ "WHERE".toList := by decide +kernel
  exact caseRun_apply_not_mem (by simp) (hruns r hr) hn

/-- The upper case of a character beyond ASCII and a tail of the word differ in a place that
both have. -/
private theorem upperWide_clash {c : Char} {p : Text} (hc : ¬ c.toNat < 128) (hne : p ≠ [])
    (hp : p ∈ "WHERE".toList.tails) : ¬ p <+: upperWide c ∧ ¬ upperWide c <+: p := by
  have hletters : ∀ x ∈ p, x ∈ "WHERE".toList := ((List.mem_tails _ _).1 hp).subset
  have hsmall : ∀ x ∈ "WHERE".toList, x.toNat < 128 := by simp
  have hsingle : ∀ x : Char, x ∉ "WHERE".toList → ¬ p <+: [x] ∧ ¬ [x] <+: p := by
    intro x hx
    constructor
    · intro h
      obtain ⟨y, ys, rfl⟩ := List.exists_cons_of_ne_nil hne
      obtain rfl : y = x := by simpa using h.subset List.mem_cons_self
      exact hx (hletters y (by simp))
    · intro h
      exact hx (hletters x (h.subset (by simp)))
  have htable : ∀ e ∈ caseExpansions, ∀ p ∈ "WHERE".toList.tails, p ≠ [] →
      ¬ p <+: e.2.map Char.ofNat ∧ ¬ e.2.map Char.ofNat <+: p := by decide +kernel
  unfold upperWide
  cases hrun : caseRuns.find? (·.contains c.toNat) with
  | some r =>
      have hcontains : r.contains c.toNat = true := by simpa using List.find?_some hrun
      exact hsingle _ (apply_not_mem (List.mem_of_find?_eq_some hrun) hcontains)
  | none =>
      cases hlookup : caseExpansions.lookup c.toNat with
      | some codes =>
          obtain ⟨l₁, l₂, htab, -⟩ := List.lookup_eq_some_iff.1 hlookup
          exact htable (c.toNat, codes) (by rw [htab]; simp) p hp hne
      | none => exact hsingle c fun hmem => hc (hsmall c hmem)

/-! ### A tail of the word -/

/-- One letter is read at a time. -/
private theorem prefix_upper_cons {x c : Char} {p s : Text} (hp : x :: p ∈ "WHERE".toList.tails) :
    x :: p <+: upper (c :: s) ↔ c.toLower = x.toLower ∧ p <+: upper s := by
  have hx : x ∈ "WHERE".toList := ((List.mem_tails _ _).1 hp).subset (by simp)
  rw [toLower_eq_iff hx]
  by_cases hc : c.toNat < 128
  · have hupper : upper (c :: s) = c.toUpper :: upper s := by
      simp [upper, upperChar, hc]
    rw [hupper, List.cons_prefix_cons, eq_comm]
    simp [hc]
  · have hupper : upper (c :: s) = upperWide c ++ upper s := by
      simp [upper, upperChar, hc]
    obtain ⟨hlonger, hshorter⟩ := upperWide_clash hc (by simp) hp
    refine iff_of_false ?_ (fun h => hc h.1.1)
    intro hprefix
    rw [hupper] at hprefix
    rcases List.prefix_or_prefix_of_prefix hprefix (List.prefix_append _ _) with h | h
    · exact hlonger h
    · exact hshorter h

/-- **A tail of the word stands at the head of an upper case exactly when its letters stand at
the head of the text**, each in one of its two cases. -/
theorem prefix_upper_iff {p s : Text} (hp : p ∈ "WHERE".toList.tails) :
    p <+: upper s ↔ ∃ w r, s = w ++ r ∧ w.map Char.toLower = p.map Char.toLower := by
  induction p generalizing s with
  | nil => exact iff_of_true List.nil_prefix ⟨[], s, rfl, rfl⟩
  | cons x p ih =>
      have hrest : p ∈ "WHERE".toList.tails :=
        (List.mem_tails _ _).2 ((List.suffix_cons x p).trans ((List.mem_tails _ _).1 hp))
      cases s with
      | nil => simp [upper]
      | cons c s =>
          rw [prefix_upper_cons hp, ih hrest]
          constructor
          · rintro ⟨hc, w, r, rfl, hw⟩
            exact ⟨c :: w, r, rfl, by rw [List.map_cons, List.map_cons, hc, hw]⟩
          · rintro ⟨w, r, heq, hw⟩
            obtain ⟨d, v, rfl, hd, hv⟩ := List.map_eq_cons_iff.1 hw
            obtain ⟨rfl, rfl⟩ := List.cons.inj heq
            exact ⟨hd, v, r, rfl, hv⟩

end SqlGuard.Text
