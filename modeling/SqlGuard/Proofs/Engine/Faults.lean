/-
A broken scanner costs the whole outcome or nothing.

The check of an input catches faults, and a repair does not: it divides the input again,
scans statements again and rewrites them with nobody to catch what goes wrong.  What keeps a
fault from getting out is that a scanner which the check did not reach is not reached
afterwards either.  That is `gives_repair`, for inputs that can be checked.  Here is the other
half: an input that cannot be checked is reported as a fault, and a report without statements
leaves a repair nothing to do.

So there are two outcomes and no third, and which of them it is shows in the input:
`run_all_or_nothing`.
-/
import SqlGuard.Proofs.Engine.Trace

namespace SqlGuard.Engine

variable {faults : Faults}

/-! ### Where a check stops -/

theorem stops_kind (h : faults .kind ≠ none ∨ faults .clean ≠ none) (s : Text) :
    Stops faults (kind s) := by
  by_cases hkind : faults .kind = none
  · have hclean : faults .clean ≠ none := h.resolve_left (not_not_intro hkind)
    exact .bind_later (.enter hkind) (((Stops.enter hclean).bind _).bind _)
  · exact (Stops.enter hkind).bind _

theorem stops_isFiltered (hline : faults .commentLine = none) (hcode : faults .codePart ≠ none)
    {line : Text} (hc : SqlGuard.isCommentLine line = false) :
    Stops faults (isFiltered line) := by
  have hfirst : Gives faults (isCommentLine line) (.ok (SqlGuard.isCommentLine line)) [] :=
    (Gives.enter hline).bind_silent (.pure _)
  refine .bind_later hfirst ?_
  rw [hc]
  exact ((Stops.enter hcode).bind _).bind _

/-- The search for an active filter stops where it cannot tell comments from code, and where
it cannot read the code that it comes to. -/
theorem stops_hasActiveFilter {s : Text}
    (h : faults .activeFilter ≠ none ∨ faults .commentLine ≠ none ∨
      (faults .codePart ≠ none ∧ ¬ ∀ line ∈ s.lines, SqlGuard.isCommentLine line = true)) :
    Stops faults (hasActiveFilter s) := by
  by_cases hactive : faults .activeFilter = none
  · refine .bind_later (.enter hactive) ?_
    by_cases hline : faults .commentLine = none
    · obtain ⟨hcode, hlines⟩ :=
        (h.resolve_left (not_not_intro hactive)).resolve_left (not_not_intro hline)
      simp only [not_forall, Bool.not_eq_true] at hlines
      obtain ⟨live, hlive, hc⟩ := hlines
      refine .anyM ?_ ⟨live, hlive, stops_isFiltered hline hcode hc⟩
      intro line _
      cases hcomment : SqlGuard.isCommentLine line with
      | true =>
          have hgives := gives_isFiltered hline (Or.inr hcomment)
          rw [hcomment] at hgives
          exact Or.inl hgives
      | false => exact Or.inr (stops_isFiltered hline hcode hcomment)
    · -- Every statement has a first line, and nothing can be said of it.
      have hstop : ∀ line, Stops faults (isFiltered line) :=
        fun line => ((Stops.enter hline).bind _).bind _
      obtain ⟨line, hmem⟩ := List.exists_mem_of_ne_nil _ (Text.lines_ne_nil s)
      exact .anyM (fun line _ => Or.inr (hstop line)) ⟨line, hmem, hstop line⟩
  · exact (Stops.enter hactive).bind _

theorem stops_checkStatement {s : Text} (h : ¬ Scannable faults s) (rules : Rules)
    (index : Int) : Stops faults (checkStatement rules index s) := by
  by_cases hcheck : faults .checkStatement = none
  · refine .bind_later (.enter hcheck) ?_
    by_cases hkind : faults .kind = none ∧ faults .clean = none
    · refine .bind_later (gives_kind hkind.1 hkind.2 s) ?_
      by_cases hactive : faults .activeFilter = none ∧ faults .commentLine = none ∧
          (faults .codePart = none ∨ ∀ line ∈ s.lines, SqlGuard.isCommentLine line = true)
      · obtain ⟨hactive, hline, hcode⟩ := hactive
        refine .bind_later (gives_hasActiveFilter hactive hline hcode) ?_
        -- All but the last of the components work, so it is the last one that does not.
        have hcommented : faults .commentedFilter ≠ none := by
          intro hcommented
          refine h ⟨?_, hcode⟩
          simp [statementComponents, hcheck, hkind, hactive, hline, hcommented]
        exact ((Stops.enter hcommented).bind _).bind _
      · refine (stops_hasActiveFilter ?_).bind _
        by_contra hnone
        push Not at hnone
        refine hactive ⟨hnone.1, hnone.2.1, ?_⟩
        by_contra hcode
        rw [not_or] at hcode
        exact hcode.2 (hnone.2.2 hcode.1)
    · exact (stops_kind (by rwa [← not_and_or]) s).bind _
  · exact (Stops.enter hcheck).bind _

theorem stops_assess {input : Text} (h : ¬ Checkable faults input) (rules : Rules) :
    Stops faults (assess rules (.text input)) := by
  by_cases hsplit : faults .split = none
  · have hbad : ∃ s ∈ statements input, ¬ Scannable faults s := by
      by_contra hnone
      push Not at hnone
      exact h ⟨hsplit, hnone⟩
    obtain ⟨s, hs, hscan⟩ := hbad
    obtain ⟨i, hi⟩ := List.getElem?_of_mem hs
    refine .bind_later (gives_split hsplit input) (.bind (.mapM ?_ ?_) _)
    · intro p _
      by_cases hp : Scannable faults p.1
      · exact Or.inl ⟨_, _, gives_checkStatement hp rules (p.2 + 1)⟩
      · exact Or.inr (stops_checkStatement hp rules (p.2 + 1))
    · refine ⟨(s, i), List.mk_mem_zipIdx_iff_getElem?.2 hi, ?_⟩
      exact stops_checkStatement hscan rules (i + 1)
  · exact ((Stops.enter hsplit).bind _).bind _

/-! ### What comes of it -/

/-- The outcome of repairing an input that could not be processed: the input as it was. -/
def unprocessed (input : Text) : Repair Submission :=
  { input := .text input, fixed := .text input, fixes := [], validation := Report.fault }

section Unprocessed

variable (hother : OnlyScanners faults) {input : Text} (h : ¬ Checkable faults input)
include hother h

theorem gives_validate_fault (rules : Rules) :
    ∃ records, Gives faults (validate rules (.text input)) (.ok Report.fault) records := by
  obtain ⟨e, records, hstop⟩ := stops_assess h rules
  refine ⟨records ++ [⟨.error, "Unexpected error while validating query", []⟩], ?_⟩
  refine (Gives.enter (hother _ (by decide))).bind_silent (hstop.recover_error ?_)
  exact (Gives.note _ _).bind (.pure _)

theorem gives_repair_fault (rules : Rules) :
    ∃ records, Gives faults (repair rules (.text input)) (.ok (unprocessed input)) records := by
  obtain ⟨records, hfault⟩ := gives_validate_fault hother h rules
  -- A fault has no statements, so the input is kept, and checked once more.
  refine ⟨records ++ (records ++ []), ?_⟩
  refine (Gives.enter (hother _ (by decide))).bind_silent (hfault.bind ?_)
  refine (Gives.pure (Submission.text input, ([] : List String))).bind_silent ?_
  exact hfault.bind (.pure _)

end Unprocessed

/-- **A broken scanner costs the whole outcome or nothing.**  Whichever scanners are broken,
one of them or several, neither a check nor a repair comes to a fault.  If the input can be
checked all the same, both give exactly what they give with nothing broken; if not, the check
gives the fault report, and the repair gives it together with the input as it was. -/
theorem run_all_or_nothing (faults : Faults) (hother : OnlyScanners faults) (rules : Rules)
    (input : Text) :
    ((validate rules (.text input)).run noFaults).1 = .ok (SqlGuard.validate rules input) ∧
      ((repair rules (.text input)).run noFaults).1 =
        .ok (ofTextRepair (SqlGuard.repair rules input)) ∧
      ((Checkable faults input ∧
          ((validate rules (.text input)).run faults).1 =
            .ok (SqlGuard.validate rules input) ∧
          ((repair rules (.text input)).run faults).1 =
            .ok (ofTextRepair (SqlGuard.repair rules input))) ∨
        (¬ Checkable faults input ∧
          ((validate rules (.text input)).run faults).1 = .ok Report.fault ∧
          ((repair rules (.text input)).run faults).1 = .ok (unprocessed input))) := by
  have hplain : ∀ {fs : Faults}, OnlyScanners fs → Checkable fs input →
      ((validate rules (.text input)).run fs).1 = .ok (SqlGuard.validate rules input) ∧
        ((repair rules (.text input)).run fs).1 =
          .ok (ofTextRepair (SqlGuard.repair rules input)) := by
    intro fs hfs hcheck
    rw [(gives_validate hfs hcheck rules).run_eq, (gives_repair hfs hcheck rules).run_eq]
    exact ⟨rfl, rfl⟩
  obtain ⟨hvalidate, hrepair⟩ := hplain onlyScanners_noFaults (checkable_noFaults input)
  refine ⟨hvalidate, hrepair, ?_⟩
  by_cases hcheck : Checkable faults input
  · exact Or.inl ⟨hcheck, hplain hother hcheck⟩
  · obtain ⟨_, hreport⟩ := gives_validate_fault hother hcheck rules
    obtain ⟨_, houtcome⟩ := gives_repair_fault hother hcheck rules
    rw [hreport.run_eq, houtcome.run_eq]
    exact Or.inr ⟨hcheck, rfl, rfl⟩

/-- One component is broken and all others work. -/
def breaking (c : Component) (message : String) : Faults :=
  fun d => if d = c then some message else none

theorem onlyScanners_breaking {c : Component} (hc : c ∈ scanners) (message : String) :
    OnlyScanners (breaking c message) := by
  intro d hd
  unfold breaking
  rw [if_neg]
  rintro rfl
  exact hd hc

/-- The reader of code is the one scanner that a check may miss.  It is not missed in a DELETE;
it is in a comment, although that is not valid and goes on to be repaired. -/
theorem run_breaking_codePart :
    ((repair {} (.text "DELETE FROM t".toList)).run (breaking .codePart "boom")).1 =
        .ok (unprocessed "DELETE FROM t".toList) ∧
      ((repair {} (.text "-- WHERE id = 1".toList)).run (breaking .codePart "boom")).1 =
        .ok (ofTextRepair (SqlGuard.repair {} "-- WHERE id = 1".toList)) := by
  have hother : OnlyScanners (breaking .codePart "boom") := onlyScanners_breaking (by decide) _
  constructor
  · have hbad : ¬ Checkable (breaking .codePart "boom") "DELETE FROM t".toList := by
      intro h
      rcases (h.scanned "DELETE FROM t".toList (by decide)).code with hworks | hcomments
      · exact absurd hworks (by decide)
      · exact absurd hcomments (by decide)
    rcases (run_all_or_nothing _ hother {} "DELETE FROM t".toList).2.2 with h | h
    · exact absurd h.1 hbad
    · exact h.2.2
  · have hgood : Checkable (breaking .codePart "boom") "-- WHERE id = 1".toList := by
      refine ⟨by decide, ?_⟩
      intro s hs
      obtain rfl : s = "-- WHERE id = 1".toList := by
        have honly : statements "-- WHERE id = 1".toList = ["-- WHERE id = 1".toList] := by decide
        rw [honly] at hs
        exact List.mem_singleton.1 hs
      exact ⟨by decide, Or.inr (by decide)⟩
    rcases (run_all_or_nothing _ hother {} "-- WHERE id = 1".toList).2.2 with h | h
    · exact h.2.2
    · exact absurd hgood h.1

end SqlGuard.Engine
