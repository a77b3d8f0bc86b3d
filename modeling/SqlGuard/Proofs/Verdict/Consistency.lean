/-
A report agrees with itself.

Whether an input may be executed is written into a report more than once: in its verdict, in
the list of its errors, in the counts of its statements, and in the text of the messages that
sum up several statements.  Each of these is computed in a way of its own.  The verdict comes
from a subtraction, the errors are collected, the counts are counted again whenever someone
asks, and the texts are put together from numbers.

`Report.Consistent` says how they hang together, and the report on every input is consistent,
before a repair and behind one.  All of it rests on two facts about single statements, that one
without errors is a valid one and that its messages are labelled: so an empty list of errors
means the same for an input as for a statement, and no message on a statement can be taken for
one of those with the counts in them.
-/
import Mathlib.Algebra.GroupWithZero.Nat
import SqlGuard.Proofs.Repair.Input
import SqlGuard.Proofs.Verdict.Attribution

namespace SqlGuard

open Text

/-! ### The numbers in a text -/

/-- The numbers that are written in a text: its longest runs of digits, read as decimals. -/
def Text.numbers (s : Text) : List Nat :=
  (s.pieces (!·.isDigit)).map (Nat.ofDigitChars 10 · 0)

theorem numbers_of_plain {s : Text} (hs : ∀ c ∈ s, c.isDigit = false) : numbers s = [] := by
  have hseparators : ∀ c ∈ s, (!c.isDigit) = true := fun c hc => by simp [hs c hc]
  have hpieces := pieces_separators_append hseparators []
  rw [List.append_nil, pieces_nil] at hpieces
  rw [numbers, hpieces]
  rfl

/-- A number stands between texts without digits. -/
theorem numbers_append {u v : Text} (hu : ∀ c ∈ u, c.isDigit = false)
    (hv : ∀ c ∈ v.head?, c.isDigit = false) (n : Nat) :
    numbers (u ++ ((toString n).toList ++ v)) = n :: numbers v := by
  have hne : (toString n).toList ≠ [] := by
    rw [toList_toString]
    exact Nat.toDigits_ne_nil
  have hdigits : ∀ c ∈ (toString n).toList, (!c.isDigit) = false := fun c hc => by
    simp [isDigit_of_mem_toString hc]
  unfold numbers
  rw [pieces_separators_append (fun c hc => by simp [hu c hc]),
    pieces_append_of_break hne hdigits (fun c hc => by simp [hv c hc]), List.map_cons,
    toList_toString, Nat.ofDigitChars_ten_toDigits]

/-! ### What the messages with numbers say -/

theorem numbers_summary (total valid dangerous : Nat) :
    numbers (Report.summary total valid dangerous).toList = [total, valid, dangerous] := by
  rw [Report.toList_summary, numbers_append (by simp) (by simp),
    numbers_append (by simp) (by simp), numbers_append (by simp) (by simp),
    numbers_of_plain (by simp)]

/-- Of the errors that stop several statements, the first one says how many are dangerous. -/
theorem numbers_escalation {dangerous : Nat} {e : String} (he : e ∈ Report.escalation dangerous)
    (hcritical : "CRITICAL".toList <+: e.toList) : numbers e.toList = [dangerous] := by
  rcases Report.mem_escalation_iff.1 he with htext | rfl
  · have hplain : ∀ c ∈ " dangerous ".toList ++
        ((if dangerous = 1 then "query" else "queries").toList ++ ['!']), c.isDigit = false := by
      split <;> simp
    rw [htext, numbers_append (by simp) (fun c hc => hplain c (List.mem_of_mem_head? hc)),
      numbers_of_plain hplain]
  · exact absurd hcritical (by decide)

/-- A message on a statement starts with the bracket of its label. -/
theorem head?_message (index : Int) (f : Finding) : (f.message index).toList.head? = some '[' := by
  unfold Finding.message
  simp only [String.toList_append, List.append_assoc]
  rfl

/-- So a message that starts with a word is no statement's own. -/
theorem mem_overall_of_prefix {rs : List StatementReport}
    {messages : StatementReport → List String} {overall : List String}
    (hown : ∀ r ∈ rs, ∀ m ∈ messages r, ∃ f : Finding, m = f.message r.index) {word : Text}
    (hne : word ≠ []) (hword : word.head? ≠ some '[') {message : String}
    (hmem : message ∈ rs.flatMap messages ++ overall) (hstarts : word <+: message.toList) :
    message ∈ overall := by
  refine (List.mem_append.1 hmem).resolve_left ?_
  intro hstatement
  obtain ⟨r, hr, hmessage⟩ := List.mem_flatMap.1 hstatement
  obtain ⟨f, rfl⟩ := hown r hr message hmessage
  obtain ⟨rest, heq⟩ := hstarts
  have hhead := head?_message r.index f
  rw [← heq, List.head?_append_of_ne_nil _ hne] at hhead
  exact hword hhead

/-! ### Reports -/

/-- Whether the parts of a report agree with each other. -/
structure Report.Consistent (r : Report) : Prop where
  /-- Statements are numbered from one on. -/
  numbered : Numbered r.statements
  /-- A statement is valid when it has no errors. -/
  valid_iff : ∀ s ∈ r.statements, s.valid = true ↔ s.errors = []
  /-- So is the input. -/
  isValid_iff_errors : r.isValid = true ↔ r.errors = []
  /-- That is, when it has statements and none of them is dangerous. -/
  isValid_iff_counts : r.isValid = true ↔ 0 < r.statementCount ∧ r.dangerousCount = 0
  counts : r.validCount + r.dangerousCount = r.statementCount
  activeFilters : r.activeFilterCount ≤ r.statementCount
  /-- There are the errors of the statements, one more if there is no statement, and two more if
  one of several is dangerous. -/
  length_errors : r.errors.length = (r.statements.map (·.errors.length)).sum +
    if r.statementCount = 0 then 1
    else if 1 < r.statementCount ∧ 0 < r.dangerousCount then 2 else 0
  /-- The warning that sums up several statements has the counts in it. -/
  summary : ∀ w ∈ r.warnings, "Found ".toList <+: w.toList →
    numbers w.toList = [r.statementCount, r.validCount, r.dangerousCount]
  /-- The error that warns of several statements has the number of dangerous ones in it. -/
  critical : ∀ e ∈ r.errors, "CRITICAL".toList <+: e.toList →
    numbers e.toList = [r.dangerousCount]

namespace Report

theorem isValid_ofStatements_iff_counts (rs : List StatementReport) :
    (ofStatements rs).isValid = true ↔
      0 < (ofStatements rs).statementCount ∧ (ofStatements rs).dangerousCount = 0 := by
  unfold statementCount dangerousCount
  rw [isValid_ofStatements, statements_ofStatements, List.length_pos_iff, List.countP_eq_zero]
  simp

theorem length_overallErrors (r : Report) :
    r.overallErrors.length =
      if r.statementCount = 0 then 1
      else if 1 < r.statementCount ∧ 0 < r.dangerousCount then 2 else 0 := by
  have hempty : r.statements.isEmpty = true ↔ r.statementCount = 0 := by
    rw [List.isEmpty_iff, statementCount, List.length_eq_zero_iff]
  unfold overallErrors
  simp only [hempty, ← dangerousCount_pos_iff]
  split_ifs <;> rfl

section Assembled

variable {rs : List StatementReport}

/-- Without errors there is a statement, and none of them has any. -/
theorem isValid_ofStatements_iff_errors (hsound : ∀ r ∈ rs, r.Sound) :
    (ofStatements rs).isValid = true ↔ (ofStatements rs).errors = [] := by
  rw [(messages_ofStatements rs).1, List.append_eq_nil_iff, List.flatMap_eq_nil_iff,
    ← List.length_eq_zero_iff, length_overallErrors, statements_ofStatements]
  constructor
  · intro h
    obtain ⟨hpos, hnone⟩ := (isValid_ofStatements_iff_counts rs).1 h
    refine ⟨fun r hr => (hsound r hr).valid_iff.1 ((isValid_ofStatements.1 h).2 r hr), ?_⟩
    rw [if_neg (by omega), if_neg (by omega)]
  · rintro ⟨herrors, hoverall⟩
    refine isValid_ofStatements.2 ⟨?_, fun r hr => (hsound r hr).valid_iff.2 (herrors r hr)⟩
    rintro rfl
    simp [ofStatements, statementCount] at hoverall

theorem numbers_of_mem_warnings (hsound : ∀ r ∈ rs, r.Sound) {w : String}
    (hw : w ∈ (ofStatements rs).warnings) (hfound : "Found ".toList <+: w.toList) :
    numbers w.toList = [(ofStatements rs).statementCount, (ofStatements rs).validCount,
      (ofStatements rs).dangerousCount] := by
  rw [(messages_ofStatements rs).2, statements_ofStatements] at hw
  have hoverall := mem_overall_of_prefix (fun r hr => (hsound r hr).warning) (by decide)
    (by decide) hw hfound
  unfold overallWarnings at hoverall
  split at hoverall
  · rw [List.mem_singleton.1 hoverall, numbers_summary]
  · simp at hoverall

theorem numbers_of_mem_errors (hsound : ∀ r ∈ rs, r.Sound) {e : String}
    (he : e ∈ (ofStatements rs).errors) (hcritical : "CRITICAL".toList <+: e.toList) :
    numbers e.toList = [(ofStatements rs).dangerousCount] := by
  rw [(messages_ofStatements rs).1, statements_ofStatements] at he
  have hoverall := mem_overall_of_prefix (fun r hr => (hsound r hr).error) (by decide)
    (by decide) he hcritical
  unfold overallErrors at hoverall
  split at hoverall
  · rw [List.mem_singleton.1 hoverall] at hcritical
    exact absurd hcritical (by decide)
  · split at hoverall
    · exact numbers_escalation hoverall hcritical
    · simp at hoverall

/-- **A report that is put together from sound ones is consistent.** -/
theorem consistent_ofStatements (hnumbered : Numbered rs) (hsound : ∀ r ∈ rs, r.Sound) :
    (ofStatements rs).Consistent where
  numbered := by rwa [statements_ofStatements]
  valid_iff := by
    rw [statements_ofStatements]
    exact fun r hr => (hsound r hr).valid_iff
  isValid_iff_errors := isValid_ofStatements_iff_errors hsound
  isValid_iff_counts := isValid_ofStatements_iff_counts rs
  counts := validCount_add_dangerousCount _
  activeFilters := List.countP_le_length
  length_errors := by
    rw [(messages_ofStatements rs).1, List.length_append, List.length_flatMap,
      length_overallErrors]
  summary := fun _ => numbers_of_mem_warnings hsound
  critical := fun _ => numbers_of_mem_errors hsound

end Assembled

/-- A report that gives up says that there is no statement. -/
theorem consistent_fault : fault.Consistent where
  numbered := by simp [Numbered, fault]
  valid_iff := by simp [fault]
  isValid_iff_errors := by simp [fault]
  isValid_iff_counts := by simp [fault, statementCount]
  counts := rfl
  activeFilters := Nat.zero_le _
  length_errors := rfl
  summary := by simp [fault]
  critical := by
    intro e he hcritical
    rw [List.mem_singleton.1 he] at hcritical
    exact absurd hcritical (by decide)

end Report

theorem consistent_validate (rules : Rules) (t : Text) : (validate rules t).Consistent := by
  have hnumbered := numbered_validate rules t
  have hsound : ∀ r ∈ (validate rules t).statements, r.Sound := fun _ => sound_of_mem_validate
  rw [statements_validate] at hnumbered hsound
  exact Report.consistent_ofStatements hnumbered hsound

/-- **Every report is consistent**: the one on an input, the one on what a repair leaves of it,
and the one that stands in for either when it could not be made. -/
theorem reports_consistent (rules : Rules) (t : Text) :
    (validate rules t).Consistent ∧ (repair rules t).validation.Consistent ∧
      Report.fault.Consistent := by
  refine ⟨consistent_validate rules t, ?_, Report.consistent_fault⟩
  rw [validation_eq]
  exact consistent_validate rules _

-- Two of three statements are dangerous; one of them has two errors.
example :
    let r := validate {} "DELETE FROM a; SET b; TRUNCATE c".toList
    (r.errors.length, r.warnings.map fun w => numbers w.toList) = (5, [[3, 1, 2]]) := by
  decide +kernel

end SqlGuard
