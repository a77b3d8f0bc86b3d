/-
Which statement a message is about.

A report lists the errors of all statements in one list and the warnings in another, and adds
what there is to say of the input as a whole.  Who said what can still be told, because every
message on a statement starts with a label that holds the statement's number.

Labels are safe to select by.  A number is written in digits and a bracket ends it, so that no
label is the start of another one, the first statement's of the twelfth one's as little as any
(`isLabelled_message_iff`); and nothing that is said of the whole input starts with a bracket.
Selecting by the label of a statement therefore gives the messages of that statement, in their
order, and what no label selects is what was added.
-/
import SqlGuard.Proofs.Verdict.Concat

namespace SqlGuard

open Text

/-! ### Numbers in digits -/

/-- The digits of a number. -/
theorem toList_toString (n : Nat) : (toString n).toList = Nat.toDigits 10 n := by
  rw [Nat.toString_eq_ofList_toDigits, String.toList_ofList]

theorem isDigit_of_mem_toString {n : Nat} {c : Char} (h : c ∈ (toString n).toList) :
    c.isDigit = true := by
  rw [toList_toString] at h
  exact Nat.isDigit_of_mem_toDigits (by decide) (by decide) h

/-- A number is known by its digits. -/
theorem toString_injective {m n : Nat} (h : (toString m).toList = (toString n).toList) : m = n := by
  rw [toList_toString, toList_toString] at h
  have hread := congrArg (Nat.ofDigitChars 10 · 0) h
  simpa using hread

/-! ### Labels -/

/-- Whether a message starts with the label of the statement with a given number. -/
def isLabelled (index : Nat) (message : String) : Bool :=
  (messageLabel index).toList.isPrefixOf message.toList

theorem toList_messageLabel (index : Nat) :
    (messageLabel index).toList = "[Query ".toList ++ ((toString index).toList ++ [']', ' ']) := by
  have hnumber : (toString (index : Int)).toList = (toString index).toList := rfl
  unfold messageLabel
  rw [String.toList_append, String.toList_append, hnumber, List.append_assoc]
  rfl

/-- The digits of a label are over where its bracket is closed. -/
theorem takeWhile_bracket (n : Nat) (rest : Text) :
    ((toString n).toList ++ ']' :: rest).takeWhile (· != ']') = (toString n).toList := by
  have hdigits : ∀ c ∈ (toString n).toList, (c != ']') = true := by
    intro c hc
    rw [bne_iff_ne]
    rintro rfl
    exact absurd (isDigit_of_mem_toString hc) (by decide)
  rw [List.takeWhile_append_of_pos hdigits]
  simp

/-- **A message has the label of its own statement and of no other.** -/
theorem isLabelled_message_iff {i j : Nat} {f : Finding} :
    isLabelled i (f.message j) = true ↔ i = j := by
  have hmessage : (f.message j).toList = (messageLabel j).toList ++ f.text.toList :=
    String.toList_append
  unfold isLabelled
  rw [List.isPrefixOf_iff_prefix, hmessage]
  constructor
  · intro h
    rw [toList_messageLabel, toList_messageLabel, List.append_assoc,
      List.prefix_append_right_inj] at h
    obtain ⟨rest, heq⟩ := h
    have hdigits := congrArg (List.takeWhile (· != ']')) heq
    simp only [List.append_assoc, List.cons_append, takeWhile_bracket] at hdigits
    exact toString_injective hdigits
  · rintro rfl
    exact List.prefix_append _ _

/-- A message that does not start with a bracket has no label. -/
theorem isLabelled_of_head {message : String} (h : message.toList.head? ≠ some '[') (i : Nat) :
    isLabelled i message = false := by
  rw [Bool.eq_false_iff]
  intro hlabel
  obtain ⟨rest, heq⟩ := List.isPrefixOf_iff_prefix.1 hlabel
  rw [← heq, toList_messageLabel] at h
  exact h rfl

/-- Whether a message has the label of one of the first statements, `count` of them. -/
def isAttributed (count : Nat) (message : String) : Bool :=
  (List.range count).any fun k => isLabelled (k + 1) message

/-! ### The report on a statement -/

/-- What holds of the report on any statement: it is valid when it has no errors, and each of
its messages is one of the findings under its own number. -/
structure StatementReport.Sound (r : StatementReport) : Prop where
  valid_iff : r.valid = true ↔ r.errors = []
  error : ∀ e ∈ r.errors, ∃ f : Finding, e = f.message r.index
  warning : ∀ w ∈ r.warnings, ∃ f : Finding, w = f.message r.index

theorem sound_checkStatement (rules : Rules) (index : Int) (s : Text) :
    (checkStatement rules index s).Sound := by
  have hmap : ∀ (fs : List Finding), ∀ e ∈ fs.map (·.message index),
      ∃ f : Finding, e = f.message index := by
    intro fs e he
    obtain ⟨f, -, rfl⟩ := List.mem_map.1 he
    exact ⟨f, rfl⟩
  cases hc : hasCommentedFilter s with
  | true =>
      rw [checkStatement_of_commented hc]
      exact ⟨by simp, hmap [.filterOnlyInComment], by simp⟩
  | false =>
      rw [checkStatement_of_uncommented hc]
      exact ⟨by simp, hmap _, hmap _⟩

/-! ### The report on an input -/

namespace Report

/-- The errors that are no statement's own. -/
def overallErrors (r : Report) : List String :=
  if r.statements.isEmpty then [noStatements]
  else if 1 < r.statementCount ∧ r.statements.any (!·.valid) then escalation r.dangerousCount
  else []

/-- The warnings that are no statement's own. -/
def overallWarnings (r : Report) : List String :=
  if 1 < r.statementCount then [summary r.statementCount r.validCount r.dangerousCount] else []

/-- Statements are valid or dangerous. -/
theorem validCount_add_dangerousCount (r : Report) :
    r.validCount + r.dangerousCount = r.statementCount := by
  unfold validCount dangerousCount statementCount
  rw [List.length_eq_countP_add_countP (·.valid)]
  simp

theorem dangerousCount_pos_iff {r : Report} :
    0 < r.dangerousCount ↔ r.statements.any (!·.valid) = true := by
  unfold dangerousCount
  rw [List.countP_pos_iff, List.any_eq_true]

/-- **What a report says**: what it says of each statement, and then of all of them. -/
theorem messages_ofStatements (rs : List StatementReport) :
    (ofStatements rs).errors =
        (ofStatements rs).statements.flatMap (·.errors) ++ (ofStatements rs).overallErrors ∧
      (ofStatements rs).warnings =
        (ofStatements rs).statements.flatMap (·.warnings) ++ (ofStatements rs).overallWarnings := by
  cases rs with
  | nil => exact ⟨rfl, rfl⟩
  | cons r rs =>
      have hstatements := statements_ofStatements (r :: rs)
      have hdangerous : (r :: rs).length - (r :: rs).countP (·.valid) =
          (ofStatements (r :: rs)).dangerousCount := by
        have hsum := validCount_add_dangerousCount (ofStatements (r :: rs))
        unfold validCount statementCount at hsum
        rw [hstatements] at hsum
        omega
      constructor
      · show _ ++ (if _ then escalation _ else []) = _
        rw [hdangerous, overallErrors]
        simp only [dangerousCount_pos_iff, hstatements, statementCount]
        simp
      · show _ ++ (if _ then [summary _ _ _] else []) = _
        rw [hdangerous, overallWarnings, statementCount, validCount, hstatements]

theorem toList_summary (total valid dangerous : Nat) :
    (summary total valid dangerous).toList = "Found ".toList ++ ((toString total).toList ++
      (" queries: ".toList ++ ((toString valid).toList ++ (" valid, ".toList ++
        ((toString dangerous).toList ++ " dangerous.".toList))))) := by
  unfold summary
  simp only [String.toList_append, List.append_assoc]
  rfl

/-- The one of the two errors that has a number in it, and the other one. -/
theorem mem_escalation_iff {dangerous : Nat} {e : String} :
    e ∈ escalation dangerous ↔
      e.toList = "CRITICAL: Found ".toList ++ ((toString dangerous).toList ++
        (" dangerous ".toList ++
          ((if dangerous = 1 then "query" else "queries").toList ++ ['!']))) ∨
      e = "HALT EXECUTION! Some queries can modify every row in a table." := by
  have hcritical : ∀ queries : String,
      (s!"CRITICAL: Found {dangerous} dangerous {queries}!").toList =
        "CRITICAL: Found ".toList ++ ((toString dangerous).toList ++
          (" dangerous ".toList ++ (queries.toList ++ ['!']))) := by
    intro queries
    simp only [String.toList_append, List.append_assoc]
    rfl
  unfold escalation
  rw [List.mem_cons, List.mem_singleton, ← hcritical, String.toList_inj]

/-- What is said of the whole input does not start with a bracket. -/
theorem isLabelled_overallErrors (r : Report) (i : Nat) :
    ∀ e ∈ r.overallErrors, isLabelled i e = false := by
  intro e he
  refine isLabelled_of_head ?_ i
  unfold overallErrors at he
  split at he
  · rw [List.mem_singleton.1 he]
    decide
  · split at he
    · rcases mem_escalation_iff.1 he with hcritical | rfl
      · rw [hcritical]
        simp
      · decide
    · simp at he

theorem isLabelled_overallWarnings (r : Report) (i : Nat) :
    ∀ w ∈ r.overallWarnings, isLabelled i w = false := by
  intro w hw
  refine isLabelled_of_head ?_ i
  unfold overallWarnings at hw
  split at hw
  · rw [List.mem_singleton.1 hw, toList_summary]
    simp
  · simp at hw

end Report

/-! ### Selecting by label -/

/-- What selects exactly the yield of one place in a list selects it from the yield of all. -/
theorem filter_flatMap_of_getElem? {α β : Type} {g : α → List β} {p : β → Bool} {xs : List α}
    {k : Nat} {x : α}
    (hp : ∀ (j : Nat) (y : α), xs[j]? = some y → ∀ b ∈ g y, p b = true ↔ j = k)
    (hx : xs[k]? = some x) : (xs.flatMap g).filter p = g x := by
  induction xs generalizing k with
  | nil => simp at hx
  | cons y xs ih =>
      rw [List.flatMap_cons, List.filter_append]
      have hhead : ∀ b ∈ g y, p b = true ↔ 0 = k := hp 0 y rfl
      cases k with
      | zero =>
          obtain rfl : y = x := by simpa using hx
          have htail : (xs.flatMap g).filter p = [] := by
            rw [List.filter_eq_nil_iff]
            intro b hb hpb
            obtain ⟨z, hz, hbz⟩ := List.mem_flatMap.1 hb
            obtain ⟨j, hj⟩ := List.getElem?_of_mem hz
            exact absurd ((hp (j + 1) z hj b hbz).1 hpb) (by omega)
          rw [List.filter_eq_self.2 fun b hb => (hhead b hb).2 rfl, htail, List.append_nil]
      | succ k =>
          have hnone : (g y).filter p = [] := by
            rw [List.filter_eq_nil_iff]
            intro b hb hpb
            exact absurd ((hhead b hb).1 hpb) (by omega)
          rw [hnone, List.nil_append]
          refine ih (fun j z hz b hb => ?_) hx
          rw [hp (j + 1) z hz b hb]
          omega

section Selection

variable {rs : List StatementReport} {messages : StatementReport → List String}
  {overall : List String}

/-- Whether reports number their statements from one on. -/
def Numbered (rs : List StatementReport) : Prop :=
  ∀ (k : Nat) (r : StatementReport), rs[k]? = some r → r.index = (k + 1 : Nat)

theorem numbered_validate (rules : Rules) (t : Text) :
    Numbered (validate rules t).statements := by
  intro k r hr
  rw [getElem?_validate] at hr
  obtain ⟨s, -, rfl⟩ := Option.map_eq_some_iff.1 hr
  exact checkStatement_index rules _ s

theorem sound_of_mem_validate {rules : Rules} {t : Text} {r : StatementReport}
    (h : r ∈ (validate rules t).statements) : r.Sound := by
  obtain ⟨k, hk⟩ := List.getElem?_of_mem h
  rw [getElem?_validate] at hk
  obtain ⟨s, -, rfl⟩ := Option.map_eq_some_iff.1 hk
  exact sound_checkStatement rules _ s

theorem messages_validate (rules : Rules) (t : Text) :
    (validate rules t).errors =
        (validate rules t).statements.flatMap (·.errors) ++ (validate rules t).overallErrors ∧
      (validate rules t).warnings =
        (validate rules t).statements.flatMap (·.warnings) ++ (validate rules t).overallWarnings :=
  Report.messages_ofStatements _

/-- **The messages with the label of a statement are the statement's own.** -/
theorem Numbered.filter_isLabelled (h : Numbered rs)
    (hown : ∀ r ∈ rs, ∀ m ∈ messages r, ∃ f : Finding, m = f.message r.index)
    (hoverall : ∀ i, ∀ m ∈ overall, isLabelled i m = false) {k : Nat} {r : StatementReport}
    (hr : rs[k]? = some r) :
    (rs.flatMap messages ++ overall).filter (isLabelled (k + 1)) = messages r := by
  have hlabel : ∀ (j : Nat) (x : StatementReport), rs[j]? = some x →
      ∀ m ∈ messages x, isLabelled (k + 1) m = true ↔ j = k := by
    intro j x hx m hm
    obtain ⟨f, rfl⟩ := hown x (List.mem_of_getElem? hx) m hm
    rw [h j x hx, isLabelled_message_iff]
    omega
  have hrest : overall.filter (isLabelled (k + 1)) = [] := by
    rw [List.filter_eq_nil_iff]
    intro m hm
    simp [hoverall (k + 1) m hm]
  rw [List.filter_append, filter_flatMap_of_getElem? hlabel hr, hrest, List.append_nil]

/-- **The messages without a label are no statement's own.** -/
theorem Numbered.filter_not_isAttributed (h : Numbered rs)
    (hown : ∀ r ∈ rs, ∀ m ∈ messages r, ∃ f : Finding, m = f.message r.index)
    (hoverall : ∀ i, ∀ m ∈ overall, isLabelled i m = false) :
    (rs.flatMap messages ++ overall).filter (!isAttributed rs.length ·) = overall := by
  have hlabelled : ∀ m ∈ rs.flatMap messages, isAttributed rs.length m = true := by
    intro m hm
    obtain ⟨r, hr, hmr⟩ := List.mem_flatMap.1 hm
    obtain ⟨k, hk⟩ := List.getElem?_of_mem hr
    obtain ⟨hlt, -⟩ := List.getElem?_eq_some_iff.1 hk
    obtain ⟨f, rfl⟩ := hown r hr m hmr
    refine List.any_eq_true.2 ⟨k, List.mem_range.2 hlt, ?_⟩
    rw [h k r hk]
    exact isLabelled_message_iff.2 rfl
  have hunlabelled : ∀ m ∈ overall, isAttributed rs.length m = false := by
    intro m hm
    refine List.any_eq_false.2 fun k _ => ?_
    simp [hoverall (k + 1) m hm]
  have hstatements : (rs.flatMap messages).filter (!isAttributed rs.length ·) = [] := by
    rw [List.filter_eq_nil_iff]
    intro m hm
    simp [hlabelled m hm]
  have hrest : overall.filter (!isAttributed rs.length ·) = overall := by
    rw [List.filter_eq_self]
    intro m hm
    simp [hunlabelled m hm]
  rw [List.filter_append, hstatements, hrest, List.nil_append]

end Selection

/-- **Messages can be attributed.**  There is one report for each statement, made of that statement
alone and of its number.  Selecting by the label of a statement gives the errors of that statement,
and the warnings of that statement, in their order.  What has no label of a
statement is what is said of the input as a whole: of one without statements that it has none,
of several statements their summary, and if one of them is not valid, the two errors that
stop them all. -/
theorem messages_attributed (rules : Rules) (t : Text) :
    (∀ k : Nat, (validate rules t).statements[k]? =
        (statements t)[k]?.map (checkStatement rules (k + 1))) ∧
      (∀ (k : Nat) (r : StatementReport), (validate rules t).statements[k]? = some r →
        (validate rules t).errors.filter (isLabelled (k + 1)) = r.errors ∧
          (validate rules t).warnings.filter (isLabelled (k + 1)) = r.warnings) ∧
      (validate rules t).errors.filter (!isAttributed (statements t).length ·) =
        (validate rules t).overallErrors ∧
      (validate rules t).warnings.filter (!isAttributed (statements t).length ·) =
        (validate rules t).overallWarnings := by
  have hnumbered := numbered_validate rules t
  have hsound : ∀ r ∈ (validate rules t).statements, r.Sound := fun _ => sound_of_mem_validate
  have hcount : (statements t).length = (validate rules t).statements.length :=
    (statementCount_validate rules t).symm
  obtain ⟨herrors, hwarnings⟩ := messages_validate rules t
  rw [herrors, hwarnings, hcount]
  refine ⟨getElem?_validate rules t, ?_, ?_, ?_⟩
  · intro k r hr
    exact ⟨hnumbered.filter_isLabelled (fun r hr => (hsound r hr).error)
        (validate rules t).isLabelled_overallErrors hr,
      hnumbered.filter_isLabelled (fun r hr => (hsound r hr).warning)
        (validate rules t).isLabelled_overallWarnings hr⟩
  · exact hnumbered.filter_not_isAttributed (fun r hr => (hsound r hr).error)
      (validate rules t).isLabelled_overallErrors
  · exact hnumbered.filter_not_isAttributed (fun r hr => (hsound r hr).warning)
      (validate rules t).isLabelled_overallWarnings

-- The label of the first statement is not that of the eleventh.
example : isLabelled 1 (Finding.message 11 .truncates) = false := by
  decide

end SqlGuard
