/-
Handlers: what the service does with a request.

A handler is given the configuration that the service runs with, and gives it back with its result:
nothing keeps a handler from changing it, and what a handler changes stays changed for the requests
behind it.  It writes to the log, and may abort; neither the log nor a change to the configuration
is taken back then.
-/
import SqlGuard.Http.Config

namespace SqlGuard

/-- A service while it handles a request. -/
structure Running where
  config : Config
  log : Array Record

/-- A handler: given the broken components and the service, a result or an abort, and the service
behind it. -/
def Handler (α : Type) : Type :=
  Faults → Running → Except Abort α × Running

namespace Handler

variable {α β : Type}

@[inline]
protected def pure (a : α) : Handler α :=
  fun _ running => (.ok a, running)

@[inline]
protected def bind (x : Handler α) (f : α → Handler β) : Handler β :=
  fun faults running =>
    match x faults running with
    | (.ok a, running) => f a faults running
    | (.error abort, running) => (.error abort, running)

instance : Monad Handler where
  pure := Handler.pure
  bind := Handler.bind

/-- The configuration. -/
def config : Handler Config :=
  fun _ running => (.ok running.config, running)

/-- Changes an entry of the configuration. -/
def setEntry (name : String) (value : Json) : Handler Unit :=
  fun _ running => (.ok (), { running with config := running.config.set name value })

/-- Aborts the request, or goes on. -/
def ofExcept (result : Except Abort α) : Handler α :=
  fun _ running => (result, running)

/-- Runs a step of the engine. -/
def ofEngine (x : Engine α) : Handler α :=
  fun faults running =>
    match x faults running.log with
    | (.ok a, log) => (.ok a, { running with log })
    | (.error e, log) => (.error (.crash (.fault e)), { running with log })

/-- Logs a message. -/
def note (severity : Severity) (message : String) : Handler Unit :=
  ofEngine (Engine.note severity message)

/-- Runs a handler, and a second one in its place if it aborts. -/
def recover (x : Handler α) (instead : Abort → Handler α) : Handler α :=
  fun faults running =>
    match x faults running with
    | (.ok a, running) => (.ok a, running)
    | (.error abort, running) => instead abort faults running

end Handler

end SqlGuard
