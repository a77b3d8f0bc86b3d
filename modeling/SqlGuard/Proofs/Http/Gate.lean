/-
The gate in front of the engine.

The gate makes its checks in three places: the value that was sent, the form that is filled from
it, and the limit on the length of a query.  Part of the form is the framework's, so the checks are
brought together under what is documented of it.  They come to a verdict on the member that holds
the query, `Config.verdict`, which `gives_gate` shows the gate to give.

A query that passes is given the rules in force.  `InForce` says what they are, rule by rule: what
the request says of the rule if it says anything, and else what the service has.  The members of
the object that are looked up for all this are the query and the three overrides, so nothing else
in the object has any influence: `Config.verdict_congr`.
-/
import Mathlib.Data.List.Basic
import SqlGuard.Proofs.Http.Handler
import SqlGuard.Proofs.Rules.Override

namespace SqlGuard

/-! ### The rules in force -/

theorem Rules.ext_get {rules rules' : Rules} (h : ∀ rule, rules.get rule = rules'.get rule) :
    rules = rules' := by
  have hfilter := h .requireFilter
  have hdrop := h .allowDrop
  have htruncate := h .allowTruncate
  cases rules
  cases rules'
  simp only [Rules.get] at hfilter hdrop htruncate
  rw [hfilter, hdrop, htruncate]

theorem Rules.get_assignAll (rules : Rules) (value : Rule → Json) (rule : Rule) :
    (rules.assignAll value).get rule = (flag? (value rule)).getD (rules.get rule) := by
  cases rule <;> simp [Rules.assignAll, Rule.all, Rules.get_assign]

/-- The rules in force for a request with the given members: each of them as the request reads,
and as it stands in `base` where the request does not mention it or says null.  How a final sigma
is lowered makes no difference to the reading. -/
def InForce (base : Rules) (members : List (String × Json)) (rules : Rules) : Prop :=
  ∀ (isFinal : Text → Text → Bool) (rule : Rule), rules.get rule =
    match members.lookup rule.overrideName with
    | none | some .null => base.get rule
    | some value => readFlag isFinal value

theorem inForce_assignAll (base : Rules) (members : List (String × Json)) :
    InForce base members
      (base.assignAll fun rule => (members.lookup rule.overrideName).getD .null) := by
  intro isFinal rule
  rw [Rules.get_assignAll]
  split
  · rename_i hmissing
    rw [hmissing]
    rfl
  · rename_i hnull
    rw [hnull]
    rfl
  · rename_i value hne hvalue
    rw [hvalue, Option.getD_some, flag?_eq isFinal hne]
    rfl

theorem InForce.eq {base rules rules' : Rules} {members : List (String × Json)}
    (h : InForce base members rules) (h' : InForce base members rules') : rules = rules' :=
  Rules.ext_get fun rule =>
    (h (fun _ _ => false) rule).trans (h' (fun _ _ => false) rule).symm

theorem rulesFor_eq_ok_iff {config : Config} {members : List (String × Json)} {rules : Rules} :
    config.rulesFor members = .ok rules ↔
      ∃ base, config.baseRules = .ok base ∧ InForce base members rules := by
  unfold Config.rulesFor
  cases config.baseRules with
  | error abort => simp
  | ok base =>
      simp only [Except.ok.injEq, exists_eq_left']
      constructor
      · rintro rfl
        exact inForce_assignAll base members
      · intro hforce
        exact (inForce_assignAll base members).eq hforce

/-- Only a service without rules has none for a request. -/
theorem rulesFor_cases (config : Config) (members : List (String × Json)) :
    (∃ rules, config.rulesFor members = .ok rules) ∨
      ∃ cause, config.rulesFor members = .error (.crash cause) := by
  unfold Config.rulesFor Config.baseRules
  cases config.rules with
  | fixed rules => exact Or.inl ⟨_, rfl⟩
  | settings => exact Or.inl ⟨_, rfl⟩
  | unusable typeName => exact Or.inr ⟨.noRules typeName, rfl⟩

/-! ### The verdict -/

/-- What the member that holds the query can be: nothing, a text, or something else. -/
theorem queryMember_cases (m : Option Json) :
    (m = none ∨ m = some .null ∨ m = some (.str "")) ∨ (∃ s, m = some (.str s) ∧ s ≠ "") ∨
      ∃ v, m = some v ∧ v ≠ .null ∧ ∀ s, v ≠ .str s := by
  cases m with
  | none => exact Or.inl (Or.inl rfl)
  | some v =>
      cases v with
      | null => exact Or.inl (Or.inr (Or.inl rfl))
      | str s =>
          by_cases hs : s = ""
          · exact Or.inl (Or.inr (Or.inr (by rw [hs])))
          · exact Or.inr (Or.inl ⟨s, rfl, hs⟩)
      | _ => exact Or.inr (Or.inr ⟨_, rfl, by simp, by simp⟩)

/-- The verdict on a text that is not empty: the limit decides, and behind it the rules. -/
def Config.verdictOnText (config : Config) (members : List (String × Json)) (s : String) :
    Except Abort (Except Refusal (String × Rules)) :=
  match config.maxQueryLength.isExceeded s.toList.length with
  | .error typeName => .error (.crash (.incomparable typeName))
  | .ok true => .ok (.error (.tooLong config.maxQueryLength))
  | .ok false => (config.rulesFor members).map fun rules => .ok (s, rules)

/-- The verdict on what a request carries: the query and its rules, or why it is refused. -/
def Config.verdict (config : Config) :
    Option Json → Except Abort (Except Refusal (String × Rules))
  | some (.obj members) =>
    match members.lookup queryField with
    | none | some .null => .ok (.error .required)
    | some (.str s) => if s = "" then .ok (.error .required) else config.verdictOnText members s
    | some _ => .ok (.error .notText)
  | _ => .ok (.error .noBody)

section Verdict

variable (config : Config) {members : List (String × Json)}

theorem verdict_of_not_object {payload : Option Json}
    (h : ∀ members, payload ≠ some (.obj members)) :
    config.verdict payload = .ok (.error .noBody) := by
  unfold Config.verdict
  split
  · exact absurd rfl (h _)
  · rfl

/-- A query that is neither a text nor null. -/
theorem verdict_of_not_text {v : Json} (h : members.lookup queryField = some v) (hnull : v ≠ .null)
    (htext : ∀ s, v ≠ .str s) :
    config.verdict (some (.obj members)) = .ok (.error .notText) := by
  unfold Config.verdict
  dsimp only
  rw [h]
  cases v with
  | null => exact absurd rfl hnull
  | str s => exact absurd rfl (htext s)
  | _ => rfl

/-- A query that is not there, or holds nothing. -/
theorem verdict_of_missing (h : members.lookup queryField = none ∨
      members.lookup queryField = some .null ∨ members.lookup queryField = some (.str "")) :
    config.verdict (some (.obj members)) = .ok (.error .required) := by
  unfold Config.verdict
  dsimp only
  rcases h with h | h | h
  · rw [h]
  · rw [h]
  · rw [h]; rfl

theorem verdict_of_text {s : String} (h : members.lookup queryField = some (.str s))
    (hne : s ≠ "") :
    config.verdict (some (.obj members)) = config.verdictOnText members s := by
  unfold Config.verdict
  dsimp only
  rw [h]
  exact if_neg hne

end Verdict

/-- The gate lets a query pass under the rules in force, refuses it or crashes. -/
theorem verdict_cases (config : Config) (payload : Option Json) :
    (∃ members s rules base, payload = some (.obj members) ∧
        members.lookup queryField = some (.str s) ∧ config.baseRules = .ok base ∧
        InForce base members rules ∧ config.verdict payload = .ok (.ok (s, rules))) ∨
      (∃ refusal, config.verdict payload = .ok (.error refusal)) ∨
      ∃ cause, config.verdict payload = .error (.crash cause) := by
  by_cases hobj : ∃ members, payload = some (.obj members)
  · obtain ⟨members, rfl⟩ := hobj
    rcases queryMember_cases (members.lookup queryField) with
      hmissing | ⟨s, hquery, hne⟩ | ⟨v, hquery, hnull, htext⟩
    · exact Or.inr (Or.inl ⟨_, verdict_of_missing config hmissing⟩)
    · rw [verdict_of_text config hquery hne]
      unfold Config.verdictOnText
      rcases config.maxQueryLength.isExceeded s.toList.length with typeName | _ | _
      · exact Or.inr (Or.inr ⟨_, rfl⟩)
      · rcases rulesFor_cases config members with ⟨rules, hrules⟩ | ⟨cause, hcrash⟩
        · obtain ⟨base, hbase, hforce⟩ := rulesFor_eq_ok_iff.1 hrules
          exact Or.inl ⟨members, s, rules, base, rfl, hquery, hbase, hforce, by rw [hrules]; rfl⟩
        · exact Or.inr (Or.inr ⟨cause, by rw [hcrash]; rfl⟩)
      · exact Or.inr (Or.inl ⟨_, rfl⟩)
    · exact Or.inr (Or.inl ⟨_, verdict_of_not_text config hquery hnull htext⟩)
  · refine Or.inr (Or.inl ⟨_, verdict_of_not_object config ?_⟩)
    intro members hm
    exact hobj ⟨members, hm⟩

/-! ### The gate gives the verdict -/

/-- What the gate passes on: the query as the value that the form holds, or a message. -/
def passedOn : Except Refusal (String × Rules) → Except String (Json × Rules)
  | .ok (s, rules) => .ok (.str s, rules)
  | .error refusal => .error refusal.message

section Gate

open Handler

/-- A body that is not read stops the request at the gate. -/
theorem gives_gate_of_unread {fw : Framework} {config : Config} {request : Request} {abort : Abort}
    (hpayload : fw.payload config.maxContentLength request = .error abort) :
    Gives config (gate fw request) (.error abort) [] := by
  refine Gives.config_eq.bind_silent ?_
  rw [hpayload]
  exact (Gives.ofExcept _).bind_abort _

variable {fw : Framework} (hfw : fw.Documented) {config : Config} {request : Request}
  (hmethod : fw.method request = "POST")
include hfw hmethod

section Submitted

variable {members : List (String × Json)}
  (hpayload : fw.payload config.maxContentLength request = .ok (some (.obj members)))
include hpayload

theorem gives_check :
    Gives config (Form.check fw request)
      ((fw.errors (Field.ofMember? (members.lookup queryField)) Refusal.required.message
          (checkQuery config.maxQueryLength
            ((Field.ofMember? (members.lookup queryField)).head?.getD .null))).map
        (.ofErrors ((Field.ofMember? (members.lookup queryField)).head?.getD .null))) [] := by
  have hsubmits := hfw.submits_post request hmethod
  unfold Form.check
  rw [if_pos hsubmits]
  refine Gives.config_eq.bind_silent ?_
  rw [hfw.sent_object _ _ _ queryField hsubmits hpayload]
  refine (Gives.ofExcept _).bind_silent ?_
  rw [hfw.held_eq]
  exact (Gives.ofExcept _).map _

/-- A query that is not there, or holds nothing, is missing to the form. -/
theorem gives_submitForm_of_missing (h : members.lookup queryField = none ∨
      members.lookup queryField = some .null ∨ members.lookup queryField = some (.str "")) :
    Gives config (submitForm fw request members) (.ok (.error Refusal.required.message)) [] := by
  have hempty : ∀ v ∈ (Field.ofMember? (members.lookup queryField)).head?, v.isTruthy = false := by
    rcases h with h | h | h <;> simp [h, Field.ofMember?, Json.isTruthy]
  have hcheck := gives_check hfw hmethod hpayload
  rw [hfw.errors_missing _ _ _ hempty] at hcheck
  exact hcheck.bind_silent (.pure _)

/-- Any other text goes on to the form's own check. -/
theorem gives_submitForm_of_text {s : String} (h : members.lookup queryField = some (.str s))
    (hne : s ≠ "") :
    Gives config (submitForm fw request members)
      ((config.verdictOnText members s).map passedOn) [] := by
  have hfull : (Json.str s).isTruthy = true := by simpa [Json.isTruthy] using hne
  have hcheck := gives_check hfw hmethod hpayload
  rw [h] at hcheck
  simp only [Field.ofMember?, List.head?_cons, Option.getD_some, hfw.errors_own _ _ _ _ hfull,
    checkQuery, Limit.check] at hcheck
  unfold Config.verdictOnText
  rcases hexceeds : config.maxQueryLength.isExceeded s.toList.length with typeName | _ | _
  · rw [hexceeds] at hcheck
    exact hcheck.bind_abort _
  · rw [hexceeds] at hcheck
    have hrules : Gives config (rulesForRequest members) (config.rulesFor members) [] :=
      Gives.config_eq.bind_silent (.ofExcept _)
    have hresult : ((config.rulesFor members).map fun rules => Except.ok (s, rules)).map passedOn =
        (config.rulesFor members).map fun rules => .ok (.str s, rules) := by
      cases config.rulesFor members <;> rfl
    rw [hresult]
    exact hcheck.bind_silent (hrules.map _)
  · rw [hexceeds] at hcheck
    exact hcheck.bind_silent (.pure _)

end Submitted

/-- **What a posted request carries decides what the gate makes of it.** -/
theorem gives_gate {payload : Option Json}
    (hpayload : fw.payload config.maxContentLength request = .ok payload) :
    Gives config (gate fw request) ((config.verdict payload).map passedOn) [] := by
  refine Gives.config_eq.bind_silent ?_
  rw [hpayload]
  refine (Gives.ofExcept _).bind_silent ?_
  by_cases hobj : ∃ members, payload = some (.obj members)
  · obtain ⟨members, rfl⟩ := hobj
    dsimp only
    rcases queryMember_cases (members.lookup queryField) with
      hmissing | ⟨s, hquery, hne⟩ | ⟨v, hquery, hnull, htext⟩
    · rw [verdict_of_missing config hmissing]
      have hform := gives_submitForm_of_missing hfw hmethod hpayload hmissing
      rcases hmissing with h | h | h <;> rw [h] <;> exact hform
    · rw [verdict_of_text config hquery hne, hquery]
      exact gives_submitForm_of_text hfw hmethod hpayload hquery hne
    · rw [verdict_of_not_text config hquery hnull htext, hquery]
      cases v with
      | null => exact absurd rfl hnull
      | str s => exact absurd rfl (htext s)
      | _ => exact .pure _
  · rw [verdict_of_not_object config fun members hm => hobj ⟨members, hm⟩]
    split
    · rename_i members
      exact absurd ⟨members, rfl⟩ hobj
    · exact .pure _

end Gate

/-! ### What the gate looks at -/

/-- The members of a request that are looked at. -/
def readNames : List String :=
  queryField :: Rule.all.map Rule.overrideName

/-- **Objects that agree on the members that are looked at are treated alike.** -/
theorem Config.verdict_congr (config : Config) {members members' : List (String × Json)}
    (h : ∀ name ∈ readNames, members.lookup name = members'.lookup name) :
    config.verdict (some (.obj members)) = config.verdict (some (.obj members')) := by
  have hquery : members.lookup queryField = members'.lookup queryField := h _ (by decide)
  have hoverride : ∀ rule : Rule,
      members.lookup rule.overrideName = members'.lookup rule.overrideName := by
    intro rule
    exact h _ (by cases rule <;> decide)
  have hrules : config.rulesFor members = config.rulesFor members' := by
    unfold Config.rulesFor
    simp only [hoverride]
  unfold Config.verdict Config.verdictOnText
  simp only [hquery, hrules]

end SqlGuard
