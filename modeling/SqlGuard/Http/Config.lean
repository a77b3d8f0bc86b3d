/-
The configuration of a running service.

An entry of the configuration can be changed while the service runs, and can hold anything.  What
is read of an entry is settled when it is used: the limits for every request that they apply to,
and the rules for every query, from the settings if no rules stand there.
-/
import SqlGuard.Http.Abort
import SqlGuard.Settings

namespace SqlGuard

/-- Where the rules of the service come from. -/
inductive RuleSource where
  | fixed (rules : Rules)
  /-- They are read from the settings for each request. -/
  | settings
  /-- A value is in their place that is no rules. -/
  | unusable (typeName : String)
deriving DecidableEq

/-- The configuration of a running service. -/
structure Config where
  /-- The most characters that a query may have. -/
  maxQueryLength : Limit
  /-- The most bytes that a body may have. -/
  maxContentLength : Limit := .none
  rules : RuleSource
  /-- The settings that hold the rules. -/
  flags : Rule → Json
  /-- The level of the logger. -/
  logLevel : Nat
  /-- How many bytes the page has. -/
  pageSize : Nat

namespace Config

/-- The configuration that settings describe, for a page of a given size. -/
def ofSettings (s : Settings) (pageSize : Nat) : Config where
  maxQueryLength := Limit.ofTruthy (.int s.maxQueryLength)
  rules := .fixed s.rules
  flags rule := .str (s.flags rule)
  logLevel := s.logLevel
  pageSize := pageSize

/-- The configuration with one entry changed.  A value that holds nothing clears the rules. -/
def set (config : Config) (name : String) (value : Json) : Config :=
  match name with
  | "MAX_QUERY_LENGTH" => { config with maxQueryLength := Limit.ofTruthy value }
  | "MAX_CONTENT_LENGTH" => { config with maxContentLength := Limit.ofJson value }
  | "RULES" =>
    { config with rules := if value.isTruthy then .unusable value.typeName else .settings }
  | _ =>
    { config with
      flags := fun rule => if rule.settingName = name then value else config.flags rule }

/-- The rules of the service. -/
def baseRules (config : Config) : Except Abort Rules :=
  match config.rules with
  | .fixed rules => .ok rules
  | .settings => .ok (Rules.ofFlags config.flags)
  | .unusable typeName => .error (.crash (.noRules typeName))

/-- The rules for a request that carries an object with the given members. -/
def rulesFor (config : Config) (members : List (String × Json)) : Except Abort Rules :=
  match config.baseRules with
  | .ok rules =>
    .ok (rules.assignAll fun rule => (members.lookup rule.overrideName).getD .null)
  | .error abort => .error abort

end Config

end SqlGuard
