/-
Settings, read from the environment.

Every setting has a default.  The longest query must be an integer, and the log level is the
name of a level in any case; a name that is no level stands for the usual one.
-/
import SqlGuard.Log
import SqlGuard.Rules
import SqlGuard.Text.Integer

namespace SqlGuard

/-- Why the settings cannot be used. -/
inductive SettingsError where
  /-- The longest query is not an integer. -/
  | badLength (cause : IntegerError)
  /-- The name of the log level stands for a text that names no level. -/
  | unknownLevel (shown : String)
deriving DecidableEq

/-- The text of an error. -/
def SettingsError.message : SettingsError → String
  | badLength cause => cause.message
  | unknownLevel shown => s!"Unknown level: '{shown}'"

/-- The settings of the service. -/
structure Settings where
  /-- The most characters that a query may have. -/
  maxQueryLength : Int
  /-- The name of the log level in upper case. -/
  levelName : String
  /-- The level of the logger. -/
  logLevel : Nat
  /-- The settings that hold the rules, as they were given. -/
  flags : Rule → String
  /-- The rules that they describe. -/
  rules : Rules

namespace Settings

/-- The most characters that a query may have, where nothing else is said. -/
def defaultMaxQueryLength : Int :=
  100000

/-- The flag of a rule, where nothing else is said. -/
def defaultFlag : Rule → String
  | .requireFilter => "true"
  | .allowDrop => "false"
  | .allowTruncate => "false"

/-- The one name beside the levels that the logger looks up, and the text it stands for. -/
def messageLayout : String × String :=
  ("BASIC_FORMAT", "%(levelname)s:%(name)s:%(message)s")

/-- The level that a name in upper case stands for. -/
def levelOf (name : String) : Except SettingsError Nat :=
  if name = messageLayout.1 then
    .error (.unknownLevel messageLayout.2)
  else
    .ok ((namedLevels.lookup name).getD Severity.info.level)

/-- The longest query that an environment asks for. -/
def lengthOf (value : Option String) : Except SettingsError Int :=
  match value with
  | none => .ok defaultMaxQueryLength
  | some literal =>
    match readInteger literal.toList with
    | .ok n => .ok n
    | .error e => .error (.badLength e)

/-- Reads the settings. -/
def load (environment : String → Option String) : Except SettingsError Settings := do
  let maxQueryLength ← lengthOf (environment "MAX_QUERY_LENGTH")
  let levelName := String.ofList
    (Text.upper ((environment "LOG_LEVEL").getD Severity.info.name).toList)
  let flags := fun rule : Rule => (environment rule.settingName).getD (defaultFlag rule)
  let rules := Rules.ofFlags fun rule => .str (flags rule)
  let logLevel ← levelOf levelName
  return { maxQueryLength, levelName, logLevel, flags, rules }

end Settings

end SqlGuard
