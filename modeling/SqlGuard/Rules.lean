/-
Rules: which checks are enforced.

Rules come from three places: the defaults, a mapping of settings, and overrides that a caller
sends along.  A setting or an override is a value of any type, and `flag?` says which of them
mean yes.  Null means "not given": the default stands, or the rule that was already in force.
-/
import SqlGuard.Json.Basic
import SqlGuard.Text.Basic

namespace SqlGuard

/-! ### Flags -/

/-- The words that mean yes. -/
def yesWords : List Text :=
  ["1".toList, "true".toList, "yes".toList, "on".toList]

/-- Whether a text means yes; case and blanks at the ends do not matter.  Only ASCII letters
occur in the words, and no other letter has one of theirs as its lower case. -/
def saysYes (s : Text) : Bool :=
  yesWords.contains (s.trim.map Char.toLower)

/-- A value read as a flag: nothing for null, a truth value as it is, and for anything else
whether it is written as one of the words that mean yes.  Of numbers only the integer one is,
and no list or object is.

Every value is taken to have a text.  Where `str` gives none, to an integer of more than 4300
digits or a value that nests too deep, the value could not have been read from a body either. -/
def flag? : Json → Option Bool
  | .null => none
  | .bool b => some b
  | .int n => some (n == 1)
  | .real _ => some false
  | .str s => some (saysYes s.toList)
  | .arr _ => some false
  | .obj _ => some false

/-! ### Rule sets -/

/-- The checks that are enforced. -/
structure Rules where
  /-- Whether an UPDATE or DELETE needs an active filter. -/
  requireFilter : Bool := true
  /-- Whether tables may be dropped. -/
  allowDrop : Bool := false
  /-- Whether tables may be truncated. -/
  allowTruncate : Bool := false
deriving DecidableEq

/-- One of the three rules. -/
inductive Rule where
  | requireFilter
  | allowDrop
  | allowTruncate
deriving DecidableEq

namespace Rule

/-- The name of the field that holds a rule. -/
def fieldName : Rule → String
  | requireFilter => "require_filter_clause"
  | allowDrop => "allow_drop"
  | allowTruncate => "allow_truncate"

/-- The name of the setting that holds a rule. -/
def settingName : Rule → String
  | requireFilter => "RULES_REQUIRE_WHERE"
  | allowDrop => "RULES_ALLOW_DROP"
  | allowTruncate => "RULES_ALLOW_TRUNCATE"

/-- The name of the request field that overrides a rule. -/
def overrideName : Rule → String
  | requireFilter => "requireFilterClause"
  | allowDrop => "allowDrop"
  | allowTruncate => "allowTruncate"

/-- The three rules in the order of their fields. -/
def all : List Rule :=
  [requireFilter, allowDrop, allowTruncate]

/-- The rule with a given field name. -/
def ofFieldName? (name : String) : Option Rule :=
  all.find? (·.fieldName == name)

end Rule

namespace Rules

/-- The value of one rule. -/
def get (rules : Rules) : Rule → Bool
  | .requireFilter => rules.requireFilter
  | .allowDrop => rules.allowDrop
  | .allowTruncate => rules.allowTruncate

/-- The rules with one of them changed. -/
def set (rules : Rules) (value : Bool) : Rule → Rules
  | .requireFilter => { rules with requireFilter := value }
  | .allowDrop => { rules with allowDrop := value }
  | .allowTruncate => { rules with allowTruncate := value }

/-- The rules with one of them changed as a value says; null changes nothing. -/
def assign (rules : Rules) (rule : Rule) (value : Json) : Rules :=
  match flag? value with
  | some b => rules.set b rule
  | none => rules

/-- The rules with each of them changed as a value says. -/
def assignAll (rules : Rules) (value : Rule → Json) : Rules :=
  Rule.all.foldl (fun rules rule => rules.assign rule (value rule)) rules

/-- The rules that settings describe, the defaults where a setting is null. -/
def ofFlags (setting : Rule → Json) : Rules :=
  assignAll {} setting

/-- The rules that a mapping of settings describes. -/
def ofMapping (mapping : List (String × Json)) : Rules :=
  ofFlags fun rule => (mapping.lookup rule.settingName).getD .null

/-! ### Overrides by field name -/

/-- Why a set of named fields is refused. -/
inductive FieldError where
  /-- The field does not exist. -/
  | unknown (name : String)
  /-- The name exists, but names no field that can be set. -/
  | notSettable (name : String)
  /-- The name stands for the rule set that the operation is applied to. -/
  | receiver (operation : String)
deriving DecidableEq

/-- The name that stands for the rule set itself. -/
def receiverName : String :=
  "self"

/-- The names that belong to a rule set without being one of its rules. -/
def reservedNames : List String :=
  ["__annotations__", "__class__", "__dataclass_fields__", "__dataclass_params__", "__delattr__",
    "__dict__", "__dir__", "__doc__", "__eq__", "__format__", "__ge__", "__getattribute__",
    "__getstate__", "__gt__", "__hash__", "__init__", "__init_subclass__", "__le__", "__lt__",
    "__match_args__", "__module__", "__ne__", "__new__", "__reduce__", "__reduce_ex__", "__repr__",
    "__setattr__", "__sizeof__", "__str__", "__subclasshook__", "__weakref__", "from_mapping",
    "with_overrides"]

/-- The text of an error. -/
def FieldError.message : FieldError → String
  | unknown name => s!"'RuleConfiguration' object has no attribute '{name}'"
  | notSettable name =>
    s!"RuleConfiguration.__init__() got an unexpected keyword argument '{name}'"
  | receiver operation =>
    s!"RuleConfiguration.{operation}() got multiple values for argument '{receiverName}'"

/-- The first name that is no rule, and why that is an error.  The name of the rule set itself
counts before every other, and a name that is not known at all before one that is reserved. -/
def fieldError? (names : List String) : Option FieldError :=
  let strangers := names.filter fun name => (Rule.ofFieldName? name).isNone
  if strangers.contains receiverName then
    some (.receiver "with_overrides")
  else
    match strangers.find? fun name => !reservedNames.contains name with
    | some name => some (.unknown name)
    | none => strangers.head?.map .notSettable

/-- The rules with the given fields replaced.  One field at fault refuses them all. -/
def override (rules : Rules) (fields : List (String × Json)) : Except FieldError Rules :=
  match fieldError? (fields.map Prod.fst) with
  | some e => .error e
  | none =>
    .ok (fields.foldl (fun rules (name, value) =>
      match Rule.ofFieldName? name with
      | some rule => rules.assign rule value
      | none => rules) rules)

/-- The rules after a set of fields, which may be refused.  Then they are as they were. -/
def overrideOr (rules : Rules) (fields : List (String × Json)) : Rules :=
  match rules.override fields with
  | .ok changed => changed
  | .error _ => rules

/-- The rules after several sets of fields, one after the other. -/
def overrideEach (rules : Rules) (objects : List (List (String × Json))) : Rules :=
  objects.foldl overrideOr rules

/-- The default rules with the given fields replaced by truth values.  Here the first name that
is no rule is the one that is refused. -/
def ofFields (fields : List (String × Bool)) : Except FieldError Rules :=
  match (fields.map Prod.fst).find? fun name => (Rule.ofFieldName? name).isNone with
  | some name =>
    .error (if name = receiverName then .receiver "__init__" else .notSettable name)
  | none =>
    .ok (fields.foldl (fun rules (name, value) =>
      match Rule.ofFieldName? name with
      | some rule => rules.set value rule
      | none => rules) {})

end Rules

end SqlGuard
