/-
Overrides, one after another.

An object of overrides changes the rules that it names, or it is refused and changes none.  It is
refused for its keys alone, whatever its values are, and for any key that is not the name of a
field.  Several objects then come down to a sequence of values for each rule, those that the
objects not refused give for it: null is no value, and of the others the last one counts
(`get_overrideEach`).

A step is one field of one object (`get_assignNamed`).  The rules after an object follow from it
by induction on the fields, and the rules after all objects by induction on the objects.  That the
fallback is the current value and not the default is where both inductions start.
-/
import SqlGuard.Proofs.Rules.Flag

namespace SqlGuard

/-! ### Names of fields -/

/-- The names of the three fields. -/
def fieldNames : List String :=
  Rule.all.map Rule.fieldName

theorem Rule.ofFieldName?_eq_some_iff {name : String} {rule : Rule} :
    Rule.ofFieldName? name = some rule ↔ rule.fieldName = name := by
  constructor
  · intro h
    simpa using List.find?_some h
  · rintro rfl
    cases rule <;> decide

theorem Rule.ofFieldName?_eq_none_iff {name : String} :
    Rule.ofFieldName? name = none ↔ name ∉ fieldNames := by
  unfold Rule.ofFieldName? fieldNames
  simp [List.find?_eq_none]

namespace Rules

theorem fieldError?_eq_none_iff {names : List String} :
    fieldError? names = none ↔ ∀ name ∈ names, name ∈ fieldNames := by
  have hstrangers : (names.filter fun name => (Rule.ofFieldName? name).isNone) = [] ↔
      ∀ name ∈ names, name ∈ fieldNames := by
    rw [List.filter_eq_nil_iff]
    simp only [Option.isNone_iff_eq_none, Rule.ofFieldName?_eq_none_iff, not_not]
  rw [← hstrangers]
  unfold fieldError?
  cases names.filter fun name => (Rule.ofFieldName? name).isNone with
  | nil => simp
  | cons name rest =>
      refine iff_of_false ?_ (by simp)
      dsimp only
      split
      · simp
      · split <;> simp

/-- **An object is refused exactly when one of its keys is not the name of a field.** -/
theorem override_eq_error_iff (rules : Rules) (fields : List (String × Json)) :
    (∃ e, rules.override fields = .error e) ↔ ∃ field ∈ fields, field.1 ∉ fieldNames := by
  have hstranger : (∃ field ∈ fields, field.1 ∉ fieldNames) ↔
      fieldError? (fields.map Prod.fst) ≠ none := by
    rw [Ne, fieldError?_eq_none_iff, List.forall_mem_map]
    push Not
    rfl
  rw [hstranger]
  unfold override
  cases fieldError? (fields.map Prod.fst) <;> simp

/-- The rules with one named field changed as a value says. -/
def assignNamed (rules : Rules) (field : String × Json) : Rules :=
  match Rule.ofFieldName? field.1 with
  | some rule => rules.assign rule field.2
  | none => rules

theorem override_eq_ok {rules : Rules} {fields : List (String × Json)}
    (h : ∀ field ∈ fields, field.1 ∈ fieldNames) :
    rules.override fields = .ok (fields.foldl assignNamed rules) := by
  unfold override
  rw [fieldError?_eq_none_iff.2 (by rwa [List.forall_mem_map])]
  rfl

end Rules

/-! ### What is given for a rule -/

/-- What a field gives for a rule: its value if it names the rule, and nothing if that is null. -/
def givenByField (rule : Rule) (field : String × Json) : List Json :=
  if field.1 = rule.fieldName then
    match field.2 with
    | .null => []
    | value => [value]
  else
    []

/-- What an object gives for a rule: nothing if a key of it is not the name of a field. -/
def givenByObject (rule : Rule) (fields : List (String × Json)) : List Json :=
  if ∀ field ∈ fields, field.1 ∈ fieldNames then fields.flatMap (givenByField rule) else []

/-- The last value that is given for a rule. -/
def lastGiven? (rule : Rule) (objects : List (List (String × Json))) : Option Json :=
  (objects.flatMap (givenByObject rule)).getLast?

/-- The flag that is left when values are read one after another, `b` if there are none. -/
def lastReading (isFinal : Text → Text → Bool) (values : List Json) (b : Bool) : Bool :=
  (values.getLast?.map (readFlag isFinal)).getD b

section Reading

variable (isFinal : Text → Text → Bool) (rule : Rule)

theorem lastReading_append (u v : List Json) (b : Bool) :
    lastReading isFinal (u ++ v) b = lastReading isFinal v (lastReading isFinal u b) := by
  unfold lastReading
  rw [List.getLast?_append]
  cases v.getLast? <;> rfl

/-- **From steps to a run.**  If each step reads the values that it is given, so do all steps
together. -/
theorem Rules.get_foldl {α : Type} {step : Rules → α → Rules} {given : α → List Json}
    (hstep : ∀ rules x, (step rules x).get rule = lastReading isFinal (given x) (rules.get rule))
    (rules : Rules) (xs : List α) :
    (xs.foldl step rules).get rule = lastReading isFinal (xs.flatMap given) (rules.get rule) := by
  induction xs generalizing rules with
  | nil => rfl
  | cons x xs ih => rw [List.foldl_cons, ih, hstep, List.flatMap_cons, lastReading_append]

/-! ### Steps -/

namespace Rules

theorem get_assign (rules : Rules) (changed rule : Rule) (value : Json) :
    (rules.assign changed value).get rule =
      if rule = changed then (flag? value).getD (rules.get rule) else rules.get rule := by
  unfold Rules.assign
  cases flag? value with
  | none => simp
  | some b => cases changed <;> cases rule <;> rfl

/-- One field changes the rule that it names, unless its value is null, and no other. -/
theorem get_assignNamed (rules : Rules) (field : String × Json) :
    (rules.assignNamed field).get rule =
      lastReading isFinal (givenByField rule field) (rules.get rule) := by
  obtain ⟨name, value⟩ := field
  have hflag : (flag? value).getD (rules.get rule) =
      lastReading isFinal (givenByField rule (rule.fieldName, value)) (rules.get rule) := by
    unfold givenByField
    rw [if_pos rfl]
    by_cases hnull : value = .null
    · rw [hnull]
      rfl
    · rw [flag?_eq isFinal hnull]
      cases value <;> first | exact absurd rfl hnull | rfl
  by_cases hname : name = rule.fieldName
  · rw [hname, ← hflag, assignNamed, Rule.ofFieldName?_eq_some_iff.2 rfl]
    dsimp only
    rw [get_assign, if_pos rfl]
  · have hother : (rules.assignNamed (name, value)).get rule = rules.get rule := by
      unfold assignNamed
      cases hfound : Rule.ofFieldName? name with
      | none => rfl
      | some changed =>
          dsimp only
          rw [get_assign, if_neg]
          rintro rfl
          exact hname (Rule.ofFieldName?_eq_some_iff.1 hfound).symm
    rw [hother, givenByField, if_neg hname]
    rfl

theorem get_overrideOr (rules : Rules) (fields : List (String × Json)) :
    (rules.overrideOr fields).get rule =
      lastReading isFinal (givenByObject rule fields) (rules.get rule) := by
  unfold overrideOr givenByObject
  by_cases hnames : ∀ field ∈ fields, field.1 ∈ fieldNames
  · rw [if_pos hnames, override_eq_ok hnames]
    exact get_foldl isFinal rule (get_assignNamed isFinal rule) rules fields
  · obtain ⟨e, he⟩ := (override_eq_error_iff rules fields).2 (by simpa using hnames)
    rw [if_neg hnames, he]
    rfl

/-! ### Runs -/

theorem get_overrideEach (rules : Rules) (objects : List (List (String × Json))) :
    (rules.overrideEach objects).get rule =
      lastReading isFinal (objects.flatMap (givenByObject rule)) (rules.get rule) :=
  get_foldl isFinal rule (get_overrideOr isFinal rule) rules objects

/-- **Overrides compose rule by rule.**  An object is refused as a whole if one of its keys is not
the name of a field, and for no other reason.  Each rule has in the end what the last value other
than null means that an object not refused gave for it, or else what the mapping said. -/
theorem overrides_compose (mapping : List (String × Json))
    (objects : List (List (String × Json))) :
    (∀ (rules : Rules) (fields : List (String × Json)),
      (∃ e, rules.override fields = .error e) ↔ ∃ field ∈ fields, field.1 ∉ fieldNames) ∧
    ∀ rule : Rule, ((ofMapping mapping).overrideEach objects).get rule =
      match lastGiven? rule objects with
      | some value => readFlag isFinal value
      | none => (ofMapping mapping).get rule := by
  refine ⟨override_eq_error_iff, fun rule => ?_⟩
  rw [get_overrideEach isFinal]
  unfold lastReading lastGiven?
  cases (objects.flatMap (givenByObject rule)).getLast? <;> rfl

-- An object that is refused for its last key has no effect by its first.
example : Rules.overrideEach {} [[("allow_drop", .bool true)],
      [("allow_drop", .bool false), ("drop", .null)], [("allow_drop", .null)]] =
    { allowDrop := true } := by
  decide

end Rules

end Reading

end SqlGuard
