/-
Dividing an input undoes rejoining.

A semicolon divides an input for good: `statements_append` says that what stands before
it and what stands behind it can be divided apart.  `IsStatement` is what every piece of
a division satisfies, and it is all that rejoining needs: statements that satisfy it come
back one by one, in their order, when the input made of them is divided again.  Nothing else
comes back, since a division gives nothing else.
-/
import SqlGuard.Proofs.Text.Lines
import SqlGuard.Verdict

namespace SqlGuard

/-- What a statement looks like once an input is divided. -/
structure IsStatement (s : Text) : Prop where
  /-- Blank stretches between semicolons are no statements. -/
  nonempty : s ≠ []
  /-- An input is divided at every semicolon. -/
  undivided : ';' ∉ s
  /-- Statements are trimmed. -/
  bare : s.BareEnds

theorem isStatement_of_mem_statements {input s : Text} (h : s ∈ statements input) :
    IsStatement s := by
  obtain ⟨hmem, hne⟩ := List.mem_filter.1 h
  obtain ⟨piece, hpiece, rfl⟩ := List.mem_map.1 hmem
  refine ⟨by simpa using hne, ?_, Text.bareEnds_trim piece⟩
  intro hc
  exact (Text.mem_of_mem_splitOn hpiece (Text.mem_of_mem_trim hc)).2 rfl

/-! ### Where an input is divided -/

/-- **A semicolon divides an input for good.** -/
theorem statements_append (u v : Text) :
    statements (u ++ ';' :: v) = statements u ++ statements v := by
  unfold statements
  rw [List.splitOn_append_cons_self, List.map_append, List.filter_append]

/-- A blank in front of an input is trimmed away with those around its first statement. -/
theorem statements_cons_blank {c : Char} (hc : isBlank c = true) (input : Text) :
    statements (c :: input) = statements input := by
  have hsep : c ≠ ';' := by
    intro h
    rw [h] at hc
    exact absurd hc (by decide)
  obtain ⟨first, others, heq⟩ :=
    List.exists_cons_of_ne_nil (List.splitOn_ne_nil ';' input)
  unfold statements
  rw [List.splitOn_cons_eq_if_modifyHead, if_neg (by simpa using hsep), heq,
    List.modifyHead_cons, List.map_cons, List.map_cons, Text.trim_cons_of_isBlank hc]

theorem IsStatement.statements_eq {s : Text} (hs : IsStatement s) : statements s = [s] := by
  have htrim : s.trim = s := Text.trim_eq_self_iff.2 hs.bare
  unfold statements
  rw [List.splitOn_eq_singleton hs.undivided]
  simp [htrim, hs.nonempty]

/-! ### Rejoining -/

theorem rejoin_nil : rejoin [] = [';'] := by
  simp [rejoin]

theorem rejoin_singleton (s : Text) : rejoin [s] = s ++ [';'] := by
  simp [rejoin]

theorem rejoin_cons_cons (s s' : Text) (ss : List Text) :
    rejoin (s :: s' :: ss) = s ++ ';' :: ' ' :: rejoin (s' :: ss) := by
  simp [rejoin, List.intercalate_cons_cons]

/-- **Statements come back when the input made of them is divided.** -/
theorem statements_rejoin {ss : List Text} (h : ∀ s ∈ ss, IsStatement s) :
    statements (rejoin ss) = ss := by
  induction ss with
  | nil =>
      rw [rejoin_nil]
      simpa using statements_append [] []
  | cons s ss ih =>
      have hs : IsStatement s := h s (by simp)
      cases ss with
      | nil => rw [rejoin_singleton, statements_append, hs.statements_eq, statements_nil]; rfl
      | cons s' ss =>
          rw [rejoin_cons_cons, statements_append, statements_cons_blank (by decide),
            hs.statements_eq, ih fun k hk => h k (List.mem_cons_of_mem _ hk)]
          rfl

/-- **Division is a retraction of rejoining.**  What an input is divided into are statements.
Texts come back from the input made of them exactly when they are statements, whatever their
number; so what one input was divided into is neither divided again nor merged. -/
theorem statements_retraction (t : Text) (ss : List Text) :
    (∀ s ∈ statements t, IsStatement s) ∧
      (statements (rejoin ss) = ss ↔ ∀ s ∈ ss, IsStatement s) ∧
      statements (rejoin (statements t)) = statements t := by
  have hdivided : ∀ s ∈ statements t, IsStatement s := fun s => isStatement_of_mem_statements
  refine ⟨hdivided, ⟨?_, statements_rejoin⟩, statements_rejoin hdivided⟩
  intro hback s hs
  rw [← hback] at hs
  exact isStatement_of_mem_statements hs

-- Line breaks and wide blanks inside a statement stay where they are.
example : statements (rejoin ["a\n \u2003b".toList, "-- c".toList]) =
    ["a\n \u2003b".toList, "-- c".toList] := by
  decide

end SqlGuard
