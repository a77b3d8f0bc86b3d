/-
What a handler does.

Two things are asked of a handler.  `Keeps` says that it leaves the configuration as it was,
whatever is broken and whether it aborts or not; this is what keeps one request from having an
influence on the next.  `Gives` says what it comes to while nothing is broken, and what it adds to
the log.  For both there is one rule for each way in which handlers are put together.

The only handler that changes the configuration is `setEntry`, and no answer has one in it.
-/
import SqlGuard.Http.Service
import SqlGuard.Proofs.Engine.Run

namespace SqlGuard

namespace Handler

variable {α β : Type}

/-! ### Leaving the configuration alone -/

/-- The handler leaves the configuration as it was. -/
def Keeps (x : Handler α) : Prop :=
  ∀ faults running, (x faults running).2.config = running.config

namespace Keeps

theorem pure (a : α) : Keeps (Pure.pure a) :=
  fun _ _ => rfl

theorem config : Keeps Handler.config :=
  fun _ _ => rfl

theorem ofExcept (result : Except Abort α) : Keeps (Handler.ofExcept result) :=
  fun _ _ => rfl

theorem ofEngine (x : Engine α) : Keeps (Handler.ofEngine x) := by
  intro faults running
  unfold Handler.ofEngine
  rcases x faults running.log with ⟨_ | _, _⟩ <;> rfl

theorem note (severity : Severity) (message : String) : Keeps (Handler.note severity message) :=
  ofEngine _

theorem bind {x : Handler α} {f : α → Handler β} (hx : Keeps x) (hf : ∀ a, Keeps (f a)) :
    Keeps (x >>= f) := by
  intro faults running
  have hfirst := hx faults running
  show (Handler.bind x f faults running).2.config = running.config
  unfold Handler.bind
  rcases hrun : x faults running with ⟨abort | a, behind⟩
  · rw [hrun] at hfirst
    exact hfirst
  · rw [hrun] at hfirst
    exact (hf a faults behind).trans hfirst

theorem recover {x : Handler α} {instead : Abort → Handler α} (hx : Keeps x)
    (hinstead : ∀ abort, Keeps (instead abort)) : Keeps (x.recover instead) := by
  intro faults running
  have hfirst := hx faults running
  unfold Handler.recover
  rcases hrun : x faults running with ⟨abort | a, behind⟩
  · rw [hrun] at hfirst
    exact (hinstead abort faults behind).trans hfirst
  · rw [hrun] at hfirst
    exact hfirst

end Keeps

/-! ### Coming to a result -/

/-- Under the configuration, while nothing is broken, the handler comes to this result and adds
these records to the log; the configuration stays. -/
def Gives (config : Config) (x : Handler α) (result : Except Abort α) (records : List Record) :
    Prop :=
  ∀ log, x noFaults { config, log } = (result, { config, log := log ++ records })

namespace Gives

variable {config : Config}

/-- A handler that leaves the service as it was adds no record. -/
theorem of_still {x : Handler α} {result : Except Abort α}
    (h : ∀ log, x noFaults { config, log } = (result, { config, log })) :
    Gives config x result [] := by
  intro log
  rw [h]
  simp

theorem pure (a : α) : Gives config (Pure.pure a) (.ok a) [] :=
  of_still fun _ => rfl

theorem config_eq : Gives config Handler.config (.ok config) [] :=
  of_still fun _ => rfl

theorem ofExcept (result : Except Abort α) : Gives config (Handler.ofExcept result) result [] :=
  of_still fun _ => rfl

theorem ofEngine {x : Engine α} {a : α} {records : List Record}
    (hx : Engine.Gives noFaults x (.ok a) records) :
    Gives config (Handler.ofEngine x) (.ok a) records := by
  intro log
  unfold Handler.ofEngine
  rw [hx log]

theorem note (severity : Severity) (message : String) :
    Gives config (Handler.note severity message) (.ok ()) [{ severity, message }] :=
  ofEngine (.note severity message)

theorem bind {x : Handler α} {f : α → Handler β} {a : α} {result : Except Abort β}
    {first later : List Record} (hx : Gives config x (.ok a) first)
    (hf : Gives config (f a) result later) :
    Gives config (x >>= f) result (first ++ later) := by
  intro log
  show Handler.bind x f noFaults { config, log } = _
  unfold Handler.bind
  rw [hx log]
  show f a noFaults { config, log := log ++ first } = _
  have hlog : log ++ first ++ later = log ++ (first ++ later) := Array.toList_inj.1 (by simp)
  rw [hf, hlog]

/-- A handler that adds nothing leaves the records to the one behind it. -/
theorem bind_silent {x : Handler α} {f : α → Handler β} {a : α} {result : Except Abort β}
    {records : List Record} (hx : Gives config x (.ok a) [])
    (hf : Gives config (f a) result records) : Gives config (x >>= f) result records :=
  hx.bind hf

theorem bind_abort {x : Handler α} {abort : Abort} {records : List Record}
    (hx : Gives config x (.error abort) records) (f : α → Handler β) :
    Gives config (x >>= f) (.error abort) records := by
  intro log
  show Handler.bind x f noFaults { config, log } = _
  unfold Handler.bind
  rw [hx log]

/-- What is made of the result adds no record. -/
theorem map {x : Handler α} {result : Except Abort α} {records : List Record}
    (hx : Gives config x result records) (f : α → β) :
    Gives config (x >>= fun a => Pure.pure (f a)) (result.map f) records := by
  cases result with
  | error abort => exact hx.bind_abort _
  | ok a =>
      rw [← List.append_nil records]
      exact hx.bind (pure _)

theorem recover_ok {x : Handler α} {a : α} {records : List Record}
    (hx : Gives config x (.ok a) records) (instead : Abort → Handler α) :
    Gives config (x.recover instead) (.ok a) records := by
  intro log
  unfold Handler.recover
  rw [hx log]

theorem recover_abort {x : Handler α} {instead : Abort → Handler α} {abort : Abort}
    {result : Except Abort α} {records : List Record} (hx : Gives config x (.error abort) [])
    (hinstead : Gives config (instead abort) result records) :
    Gives config (x.recover instead) result records := by
  intro log
  have hlog : log ++ ([] : List Record) = log := Array.toList_inj.1 (by simp)
  unfold Handler.recover
  rw [hx log, hlog]
  exact hinstead log

end Gives

end Handler

/-! ### Answers leave the configuration alone -/

section Answers

variable (fw : Framework) (request : Request)

open Handler

theorem Response.keeps_ofPage : Keeps (Response.ofPage fw request) :=
  Keeps.config.bind fun _ => .pure _

theorem Response.keeps_missing : Keeps (Response.missing fw request) := by
  unfold Response.missing
  split
  · exact .pure _
  · refine Keeps.config.bind fun config => ?_
    split
    · exact .pure _
    · exact (Keeps.note _ _).bind fun _ => .pure _

theorem Response.keeps_ofAbort (abort : Abort) : Keeps (Response.ofAbort fw request abort) := by
  cases abort with
  | crash cause => exact (Keeps.note _ _).bind fun _ => .pure _
  | status code =>
      show Keeps (Response.ofStatus fw request code)
      unfold Response.ofStatus
      split
      · exact .pure _
      · exact Response.keeps_missing fw request
      · exact .pure _
      · exact .pure _
      · exact .pure _

theorem Form.keeps_check : Keeps (Form.check fw request) := by
  unfold Form.check
  split
  · refine Keeps.config.bind fun config => (Keeps.ofExcept _).bind fun values => ?_
    exact (Keeps.ofExcept _).bind fun errors => .pure _
  · exact .pure _

theorem keeps_submitForm (members : List (String × Json)) :
    Keeps (submitForm fw request members) := by
  refine (Form.keeps_check fw request).bind fun form => ?_
  split
  · exact (Keeps.config.bind fun _ => .ofExcept _).bind fun _ => .pure _
  · exact .pure _

theorem keeps_gate : Keeps (gate fw request) := by
  refine Keeps.config.bind fun config => (Keeps.ofExcept _).bind fun payload => ?_
  split
  · split
    · exact keeps_submitForm fw request _
    · exact keeps_submitForm fw request _
    · exact keeps_submitForm fw request _
    · exact .pure _
  · exact .pure _

theorem keeps_answerQuery (path : String)
    (work : Submission → Rules → Engine (List (String × Json))) :
    Keeps (answerQuery fw request path work) := by
  refine (keeps_gate fw request).bind fun passed => ?_
  cases passed with
  | error message => exact .pure _
  | ok p =>
      refine Keeps.recover ((Keeps.ofEngine _).bind fun _ => .pure _) fun abort => ?_
      exact (Keeps.note _ _).bind fun _ => .pure _

theorem Route.keeps_answer (route : Route) : Keeps (route.answer fw request) := by
  cases route with
  | page => exact Response.keeps_ofPage fw request
  | file name =>
      show Keeps (if name = pageFile then Response.ofPage fw request else Handler.ofExcept _)
      split
      · exact Response.keeps_ofPage fw request
      · exact .ofExcept _
  | validate => exact keeps_answerQuery fw request _ _
  | repair => exact keeps_answerQuery fw request _ _
  | health => exact .pure _

theorem Destination.keeps_answer (d : Destination) : Keeps (d.answer fw request) := by
  cases d with
  | found route => exact route.keeps_answer fw request
  | described route => exact .pure _
  | moved => exact .ofExcept _
  | notAllowed => exact .ofExcept _
  | nowhere => exact .ofExcept _

/-- **Answering a request leaves the configuration as it was.** -/
theorem keeps_answer : Keeps (answer fw request) :=
  (((fw.destination request).keeps_answer fw request).recover
    (Response.keeps_ofAbort fw request)).bind fun _ => .pure _

end Answers

end SqlGuard
