/-
What a step of the engine does.

A step never reads the log, so what it does is told by two things that do not depend on
what was logged before: the result it comes to, and the records it adds.  `Gives` says
both, for a given choice of broken components, and there is one rule for each way in which
steps are put together.

Often only the failure matters and not which fault it was.  `Stops` says that a step comes
to some fault; one step that stops makes the whole sequence stop, whatever the steps before
it gave.
-/
import SqlGuard.Engine.Basic

namespace SqlGuard.Engine

variable {α β : Type} {faults : Faults}

/-- Under the given faults the step comes to this result and adds these records to the log. -/
def Gives (faults : Faults) (x : Engine α) (result : Except Fault α) (records : List Record) :
    Prop :=
  ∀ log, x faults log = (result, log ++ records)

theorem Gives.run_eq {x : Engine α} {result : Except Fault α} {records : List Record}
    (h : Gives faults x result records) : x.run faults = (result, records) := by
  unfold Engine.run
  rw [h #[]]
  simp

/-! ### Single steps -/

namespace Gives

theorem pure (a : α) : Gives faults (Pure.pure a) (.ok a) [] := by
  intro log
  simp

theorem enter {c : Component} (h : faults c = none) : Gives faults (enter c) (.ok ()) [] := by
  intro log
  simp [Engine.enter, h]

theorem record (r : Record) : Gives faults (record r) (.ok ()) [r] := by
  intro log
  simp [Engine.record]

theorem note (severity : Severity) (message : String) :
    Gives faults (note severity message) (.ok ()) [{ severity, message }] :=
  record _

/-! ### Steps put together -/

theorem bind {x : Engine α} {f : α → Engine β} {a : α} {result : Except Fault β}
    {first later : List Record} (hx : Gives faults x (.ok a) first)
    (hf : Gives faults (f a) result later) :
    Gives faults (x >>= f) result (first ++ later) := by
  intro log
  rw [bind_apply, hx log]
  show f a faults (log ++ first) = _
  rw [hf]
  refine Prod.ext rfl (Array.toList_inj.1 ?_)
  simp

/-- A step that adds nothing leaves the records to the one behind it. -/
theorem bind_silent {x : Engine α} {f : α → Engine β} {a : α} {result : Except Fault β}
    {records : List Record} (hx : Gives faults x (.ok a) [])
    (hf : Gives faults (f a) result records) : Gives faults (x >>= f) result records :=
  hx.bind hf

theorem bind_error {x : Engine α} {e : Fault} {records : List Record}
    (hx : Gives faults x (.error e) records) (f : α → Engine β) :
    Gives faults (x >>= f) (.error e) records := by
  intro log
  rw [bind_apply, hx log]

theorem recover_ok {x : Engine α} {a : α} {records : List Record}
    (hx : Gives faults x (.ok a) records) (handler : Fault → Engine α) :
    Gives faults (recover x handler) (.ok a) records := by
  intro log
  simp [Engine.recover, hx log]

/-- What was logged before a fault is caught stays logged. -/
theorem recover_error {x : Engine α} {handler : Fault → Engine α} {e : Fault}
    {result : Except Fault α} {first later : List Record}
    (hx : Gives faults x (.error e) first) (hhandler : Gives faults (handler e) result later) :
    Gives faults (recover x handler) result (first ++ later) := by
  intro log
  unfold Engine.recover
  rw [hx log]
  show handler e faults (log ++ first) = _
  rw [hhandler]
  refine Prod.ext rfl (Array.toList_inj.1 ?_)
  simp

/-! ### Steps over a list -/

theorem anyM {f : α → Engine Bool} {g : α → Bool} {l : List α}
    (h : ∀ a ∈ l, Gives faults (f a) (.ok (g a)) []) :
    Gives faults (l.anyM f) (.ok (l.any g)) [] := by
  induction l with
  | nil => exact pure false
  | cons a l ih =>
      rw [List.anyM_cons]
      refine (h a (by simp)).bind_silent ?_
      cases hg : g a with
      | true =>
          have hhit : Gives faults (Pure.pure true) (.ok true) [] := pure true
          simpa [hg] using hhit
      | false => simpa [hg] using ih fun b hb => h b (List.mem_cons_of_mem _ hb)

theorem mapM {f : α → Engine β} {g : α → β} {records : α → List Record} {l : List α}
    (h : ∀ a ∈ l, Gives faults (f a) (.ok (g a)) (records a)) :
    Gives faults (l.mapM f) (.ok (l.map g)) (l.flatMap records) := by
  induction l with
  | nil => exact pure []
  | cons a l ih =>
      rw [List.mapM_cons, List.map_cons, List.flatMap_cons]
      refine (h a (by simp)).bind ?_
      have hrest := ih fun b hb => h b (List.mem_cons_of_mem _ hb)
      have hall := hrest.bind (f := fun bs => Pure.pure (g a :: bs)) (pure _)
      rwa [List.append_nil] at hall

theorem forM_record {f : α → Record} (l : List α) :
    Gives faults (l.forM fun a => Engine.record (f a)) (.ok ()) (l.map f) := by
  induction l with
  | nil => exact pure ()
  | cons a l ih => exact (record (f a)).bind ih

end Gives

/-! ### Steps that stop -/

/-- Under the given faults the step comes to a fault. -/
def Stops (faults : Faults) (x : Engine α) : Prop :=
  ∃ e records, Gives faults x (.error e) records

/-- A step cannot both come to a value and stop. -/
theorem Gives.not_stops {x : Engine α} {a : α} {records : List Record}
    (h : Gives faults x (.ok a) records) : ¬ Stops faults x := by
  rintro ⟨e, records', hfault⟩
  have hboth := (h #[]).symm.trans (hfault #[])
  simp at hboth

namespace Stops

theorem enter {c : Component} (h : faults c ≠ none) : Stops faults (Engine.enter c) := by
  obtain ⟨message, hmessage⟩ := Option.ne_none_iff_exists'.1 h
  refine ⟨.broken message, [], ?_⟩
  intro log
  simp [Engine.enter, hmessage]

theorem bind {x : Engine α} (hx : Stops faults x) (f : α → Engine β) :
    Stops faults (x >>= f) := by
  obtain ⟨e, records, h⟩ := hx
  exact ⟨e, records, h.bind_error f⟩

theorem bind_later {x : Engine α} {f : α → Engine β} {a : α} {records : List Record}
    (hx : Gives faults x (.ok a) records) (hf : Stops faults (f a)) :
    Stops faults (x >>= f) := by
  obtain ⟨e, later, h⟩ := hf
  exact ⟨e, records ++ later, hx.bind h⟩

/-- The search for a first hit stops at the first element that cannot be looked at, if none
before it was a hit. -/
theorem anyM {f : α → Engine Bool} {l : List α}
    (h : ∀ a ∈ l, Gives faults (f a) (.ok false) [] ∨ Stops faults (f a))
    (hstop : ∃ a ∈ l, Stops faults (f a)) : Stops faults (l.anyM f) := by
  induction l with
  | nil => simp at hstop
  | cons a l ih =>
      rw [List.anyM_cons]
      rcases h a (by simp) with hmiss | hnow
      · refine bind_later hmiss (ih (fun b hb => h b (List.mem_cons_of_mem _ hb)) ?_)
        obtain ⟨b, hb, hlater⟩ := hstop
        rcases List.mem_cons.1 hb with rfl | hrest
        · exact absurd hlater hmiss.not_stops
        · exact ⟨b, hrest, hlater⟩
      · exact hnow.bind _

/-- A list is gone through until an element stops. -/
theorem mapM {f : α → Engine β} {l : List α}
    (h : ∀ a ∈ l, (∃ b records, Gives faults (f a) (.ok b) records) ∨ Stops faults (f a))
    (hstop : ∃ a ∈ l, Stops faults (f a)) : Stops faults (l.mapM f) := by
  induction l with
  | nil => simp at hstop
  | cons a l ih =>
      rw [List.mapM_cons]
      rcases h a (by simp) with ⟨b, records, hgives⟩ | hnow
      · refine bind_later hgives (bind (ih (fun c hc => h c (List.mem_cons_of_mem _ hc)) ?_) _)
        obtain ⟨c, hc, hlater⟩ := hstop
        rcases List.mem_cons.1 hc with rfl | hrest
        · exact absurd hlater hgives.not_stops
        · exact ⟨c, hrest, hlater⟩
      · exact hnow.bind _

end Stops

end SqlGuard.Engine
