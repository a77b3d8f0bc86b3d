/-
The engine: checking and repairing with a log, by parts that may fail.

The plain functions `validate` and `repair` say what the outcome is.  The engine computes the
same outcome by named components, writes a log as it goes, and lets every component fail when
it is reached.  What has been logged before a failure stays logged.

A step is a function of which components are broken and of the log so far, so that running one
is only application and the laws of `do` hold by computation.
-/
import SqlGuard.Log

namespace SqlGuard

/-- The parts of the engine that can fail on their own. -/
inductive Component where
  | split
  | clean
  | kind
  | codePart
  | commentLine
  | activeFilter
  | commentedFilter
  | extract
  | checkStatement
  | validate
  | normalise
  | needsRepair
  | activate
  | repair
  | clientAddress
  | auditValidation
  | auditRepair
deriving DecidableEq

/-- Why a step did not come to an end. -/
inductive Fault where
  /-- A broken component was reached. -/
  | broken (message : String)
  /-- A value that is no text was asked for an operation of texts. -/
  | noOperation (typeName operation : String)
  /-- A value that is no text was given where the characters of a text are needed. -/
  | notText (typeName : String)
deriving DecidableEq

/-- The text of a fault. -/
def Fault.message : Fault → String
  | broken message => message
  | noOperation typeName operation => s!"'{typeName}' object has no attribute '{operation}'"
  | notText typeName => s!"expected string or bytes-like object, got '{typeName}'"

/-- Which components are broken, and the message each of those fails with. -/
abbrev Faults :=
  Component → Option String

/-- No component is broken. -/
def noFaults : Faults :=
  fun _ => none

/-- A step of the engine: given the broken components and the log so far, a result or a fault,
and the log behind it. -/
def Engine (α : Type) : Type :=
  Faults → Array Record → Except Fault α × Array Record

namespace Engine

variable {α β : Type}

/-- Runs a step on an empty log. -/
def run (x : Engine α) (faults : Faults) : Except Fault α × List Record :=
  let (result, log) := x faults #[]
  (result, log.toList)

@[inline]
protected def pure (a : α) : Engine α :=
  fun _ log => (.ok a, log)

@[inline]
protected def bind (x : Engine α) (f : α → Engine β) : Engine β :=
  fun faults log =>
    match x faults log with
    | (.ok a, log) => f a faults log
    | (.error e, log) => (.error e, log)

instance : Monad Engine where
  pure := Engine.pure
  bind := Engine.bind

/-- Gives up with a fault. -/
def fail (e : Fault) : Engine α :=
  fun _ log => (.error e, log)

/-- Reaches a component, which fails if it is broken. -/
def enter (c : Component) : Engine Unit :=
  fun faults log =>
    match faults c with
    | some message => (.error (.broken message), log)
    | none => (.ok (), log)

/-- Logs a record. -/
def record (r : Record) : Engine Unit :=
  fun _ log => (.ok (), log.push r)

/-- Logs a message. -/
def note (severity : Severity) (message : String) : Engine Unit :=
  record { severity, message }

/-- Runs a step, and a second one in its place if it gives up. -/
def recover (x : Engine α) (handler : Fault → Engine α) : Engine α :=
  fun faults log =>
    match x faults log with
    | (.ok a, log) => (.ok a, log)
    | (.error e, log) => handler e faults log

/-! ### Running a step -/

@[simp]
theorem pure_apply (a : α) (faults : Faults) (log : Array Record) :
    (pure a : Engine α) faults log = (.ok a, log) :=
  rfl

@[simp]
theorem bind_apply (x : Engine α) (f : α → Engine β) (faults : Faults) (log : Array Record) :
    (x >>= f) faults log =
      match x faults log with
      | (.ok a, log) => f a faults log
      | (.error e, log) => (.error e, log) :=
  rfl

instance : LawfulMonad Engine :=
  LawfulMonad.mk' Engine
    (by
      intro α x
      funext faults log
      show (x >>= pure) faults log = x faults log
      rw [bind_apply]
      rcases x faults log with ⟨_ | _, _⟩ <;> rfl)
    (by intros; rfl)
    (by
      intro α β γ x f g
      funext faults log
      simp only [bind_apply]
      rcases x faults log with ⟨_ | _, _⟩ <;> rfl)

end Engine

end SqlGuard
