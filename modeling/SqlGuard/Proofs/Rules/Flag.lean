/-
Reading a value as a flag.

A flag is read off the text of a value: without the blanks at its ends and in lower case, it is
one of the words that mean yes or it is not.  `flag?` comes to the same answer by a shorter way.
It lowers the letters of ASCII only, and for most values it does not look at their text.

The first is enough because nothing outside ASCII has a letter of the words in its lower case.
The Kelvin sign leads into ASCII and so does the dotted capital I, but the words have neither a k
nor an i.  The second is enough because the text of every value that is neither null, nor a truth
value, nor an integer, nor a text has a character that the words do not have, in either case and
other than a blank: a bracket, or the point, the sign or the letter that tells a double from an
integer.  Of integers, whose texts are all different, only one is written like a word.
-/
import SqlGuard.Json.Shown
import SqlGuard.Proofs.Text.Case
import SqlGuard.Proofs.Text.Words
import SqlGuard.Proofs.Verdict.Attribution
import SqlGuard.Rules
import SqlGuard.Text.Lower

namespace SqlGuard

open Text

/-- The reading of a value that is not null: a truth value stands for itself, and any other value
means yes if its text is one of the words, blanks at the ends and letter case apart. -/
def readFlag (isFinal : Text → Text → Bool) : Json → Bool
  | .bool b => b
  | v => yesWords.contains (v.shown.trim.lowercase isFinal)

/-- The letters of the words that mean yes. -/
def yesLetters : Text :=
  yesWords.flatten

/-! ### Lower case -/

theorem mem_yesLetters {c : Char} {w : Text} (hw : w ∈ yesWords) (hc : c ∈ w) : c ∈ yesLetters :=
  List.mem_flatten.2 ⟨w, hw, hc⟩

theorem toNat_of_mem_yesLetters : ∀ c ∈ yesLetters, 0 < c.toNat ∧ c.toNat < 128 := by
  simp [yesLetters, yesWords]

/-- The lower case of a character beyond ASCII has none of the letters. -/
theorem lowerWide_foreign {c : Char} (hc : ¬ c.toNat < 128) :
    lowerWide c ≠ [] ∧ ∀ d ∈ lowerWide c, d ∉ yesLetters := by
  -- One run leads into ASCII, the Kelvin sign.
  have hruns : ∀ r ∈ lowerRuns, 128 ≤ r.first + r.shift ∨
      r.first = r.last ∧ r.apply r.first ∉ yesLetters := by decide +kernel
  unfold lowerWide
  cases hrun : lowerRuns.find? (·.contains c.toNat) with
  | some r =>
      have hcontains : r.contains c.toNat = true := by simpa using List.find?_some hrun
      refine ⟨by simp, ?_⟩
      intro d hd
      rw [List.mem_singleton.1 hd]
      exact caseRun_apply_not_mem toNat_of_mem_yesLetters
        (hruns r (List.mem_of_find?_eq_some hrun)) hcontains
  | none =>
      by_cases hdotted : c = dottedCapitalI
      · simp [hdotted, dotAbove, yesLetters, yesWords]
      · simp only [if_neg hdotted]
        refine ⟨by simp, ?_⟩
        intro d hd hletter
        rw [List.mem_singleton.1 hd] at hletter
        exact hc (toNat_of_mem_yesLetters c hletter).2

theorem lowerChar_foreign {c : Char} (hc : ¬ c.toNat < 128) (final : Bool) :
    lowerChar final c ≠ [] ∧ ∀ d ∈ lowerChar final c, d ∉ yesLetters := by
  unfold lowerChar
  rw [if_neg hc]
  split
  · simp [finalSigma, yesLetters, yesWords]
  · exact lowerWide_foreign hc

/-- **A text in lower case is made of the letters exactly when its ASCII letters in lower case
are.**  The induction is on the rest of the text, whatever has been passed. -/
theorem lowercaseGo_eq_iff (isFinal : Text → Text → Bool) {w : Text}
    (hw : ∀ d ∈ w, d ∈ yesLetters) (passed s : Text) :
    lowercase.go isFinal passed s = w ↔ s.map Char.toLower = w := by
  induction s generalizing w passed with
  | nil => rfl
  | cons c s ih =>
      rw [lowercase.go, List.map_cons]
      by_cases hc : c.toNat < 128
      · rw [lowerChar, if_pos hc, List.singleton_append]
        cases w with
        | nil => simp
        | cons d w =>
            have hrest := ih (w := w) (fun x hx => hw x (List.mem_cons_of_mem _ hx)) (c :: passed)
            rw [List.cons.injEq, List.cons.injEq, hrest]
      · obtain ⟨hne, hforeign⟩ := lowerChar_foreign hc (isFinal passed s)
        refine iff_of_false ?_ ?_
        · intro heq
          obtain ⟨d, hd⟩ := List.exists_mem_of_ne_nil _ hne
          exact hforeign d hd (hw d (by rw [← heq]; exact List.mem_append_left _ hd))
        · intro heq
          rw [toLower_eq_self (by omega)] at heq
          exact hc (toNat_of_mem_yesLetters c (hw c (by rw [← heq]; simp))).2

/-- Which words are written in a text does not depend on the case of letters beyond ASCII. -/
theorem contains_lowercase (isFinal : Text → Text → Bool) (s : Text) :
    yesWords.contains (s.trim.lowercase isFinal) = saysYes s := by
  unfold saysYes
  rw [Bool.eq_iff_iff, List.contains_iff_mem, List.contains_iff_mem]
  constructor
  · intro h
    have hlowered := (lowercaseGo_eq_iff isFinal (fun _ => mem_yesLetters h) [] s.trim).1 rfl
    rw [hlowered]
    exact h
  · intro h
    have hlowered := (lowercaseGo_eq_iff isFinal (fun _ => mem_yesLetters h) [] s.trim).2 rfl
    rw [lowercase, hlowered]
    exact h

/-! ### Characters that no word has -/

theorem saysYes_of_foreign {c : Char} {s : Text} (h : c ∈ s) (hblank : isBlank c = false)
    (hforeign : c.toLower ∉ yesLetters) : saysYes s = false := by
  unfold saysYes
  rw [Bool.eq_false_iff, Ne, List.contains_iff_mem]
  intro hword
  exact hforeign (mem_yesLetters hword (List.mem_map.2 ⟨c, mem_trim_of_mem hblank h, rfl⟩))

/-- The characters that tell a double from an integer. -/
def doubleMarks : Text :=
  ['.', '+', '-', 'f', 'a']

theorem doubleMarks_foreign : ∀ c ∈ doubleMarks, isBlank c = false ∧ c.toLower ∉ yesLetters := by
  simp [doubleMarks, isBlank, yesLetters, yesWords]

theorem exists_mark_layOut (digits : Text) (point : Int) :
    ∃ c ∈ Double.layOut digits point, c ∈ doubleMarks := by
  unfold Double.layOut
  split
  · by_cases hneg : point - 1 < 0
    · exact ⟨'-', by simp [Double.exponentText, hneg], by decide⟩
    · exact ⟨'+', by simp [Double.exponentText, hneg], by decide⟩
  · refine ⟨'.', ?_, by decide⟩
    split
    · simp
    · split <;> simp

theorem exists_mark_magnitudeText (units : Option Nat) :
    ∃ c ∈ Double.magnitudeText units, c ∈ doubleMarks := by
  unfold Double.magnitudeText
  split
  · exact ⟨'f', by decide, by decide⟩
  · exact ⟨'.', by decide, by decide⟩
  · exact exists_mark_layOut _ _

/-- **No double is written like an integer or a word.** -/
theorem exists_mark_text (literal : String) : ∃ c ∈ Double.text literal, c ∈ doubleMarks := by
  unfold Double.text
  split
  · obtain ⟨c, hc, hmark⟩ := exists_mark_magnitudeText (Double.ofDecimal? _)
    exact ⟨c, List.mem_append_right _ hc, hmark⟩
  · split
    · exact ⟨'f', by decide, by decide⟩
    · exact ⟨'f', by decide, by decide⟩
    · exact ⟨'a', by decide, by decide⟩

/-! ### Integers -/

/-- Of the natural numbers, one is written like a word. -/
theorem saysYes_nat (n : Nat) : saysYes (toString n).toList = (n == 1) := by
  have hdigit : ∀ c ∈ (toString n).toList, isBlank c = false ∧ c.toLower = c := by
    intro c hc
    have hrange : 48 ≤ c.toNat ∧ c.toNat ≤ 57 :=
      Char.isDigit_iff_toNat.1 (isDigit_of_mem_toString hc)
    refine ⟨?_, toLower_eq_self (by omega)⟩
    simp [isBlank]
    omega
  have htrim : trim (toString n).toList = (toString n).toList := by
    refine trim_eq_self_iff.2 ⟨fun c hc => ?_, fun c hc => ?_⟩
    · exact (hdigit c (List.mem_of_head? hc)).1
    · exact (hdigit c (List.mem_of_getLast? hc)).1
  have hlower : (toString n).toList.map Char.toLower = (toString n).toList := by
    rw [List.map_congr_left fun c hc => (hdigit c hc).2, List.map_id']
  unfold saysYes
  rw [htrim, hlower, Bool.eq_iff_iff, List.contains_iff_mem, beq_iff_eq]
  constructor
  · intro h
    by_cases hone : (toString n).toList = "1".toList
    · exact toString_injective hone
    · -- The other words are not made of digits.
      have hletters : ∀ w ∈ yesWords, w ≠ "1".toList → w.all Char.isDigit = false := by decide
      have hnot := hletters _ h hone
      rw [List.all_eq_true.2 fun c => isDigit_of_mem_toString] at hnot
      simp at hnot
  · rintro rfl
    decide

theorem saysYes_int (n : Int) : saysYes (toString n).toList = (n == 1) := by
  cases n with
  | ofNat m =>
      have hone : (Int.ofNat m == 1) = (m == 1) := by
        rw [Bool.eq_iff_iff, beq_iff_eq, beq_iff_eq]
        exact Int.ofNat_inj
      rw [hone]
      exact saysYes_nat m
  | negSucc m =>
      have hminus : (toString (Int.negSucc m)).toList = '-' :: (toString (m + 1)).toList :=
        String.toList_append
      rw [hminus]
      exact saysYes_of_foreign List.mem_cons_self (by decide) (by decide)

/-! ### All values -/

/-- **Every value that is not null is read off its text.** -/
theorem flag?_eq (isFinal : Text → Text → Bool) {v : Json} (h : v ≠ .null) :
    flag? v = some (readFlag isFinal v) := by
  by_cases hbool : ∃ b, v = .bool b
  · obtain ⟨b, rfl⟩ := hbool
    rfl
  · have hread : readFlag isFinal v = saysYes v.shown := by
      rw [readFlag, contains_lowercase]
      exact fun b hb => hbool ⟨b, hb⟩
    rw [hread]
    cases v with
    | null => exact absurd rfl h
    | bool b => exact absurd ⟨b, rfl⟩ hbool
    | int n => exact congrArg some (saysYes_int n).symm
    | real literal =>
        obtain ⟨c, hc, hmark⟩ := exists_mark_text literal
        exact congrArg some (saysYes_of_foreign hc (doubleMarks_foreign c hmark).1
          (doubleMarks_foreign c hmark).2).symm
    | str s => rfl
    | arr items =>
        refine congrArg some (saysYes_of_foreign (c := '[') ?_ (by decide) (by decide)).symm
        simp [Json.shown, Json.inner]
    | obj members =>
        refine congrArg some (saysYes_of_foreign (c := '\x7b') ?_ (by decide) (by decide)).symm
        simp [Json.shown, Json.inner]

end SqlGuard
