/-
Requests do not influence one another.

A service handles one request after the other, and the configuration goes from one to the next
through the handlers.  Entries of it may be changed in front of a request.  Those changes are all
that a request finds of what went before: every handler leaves the configuration as it was, so that
by induction on the requests the configuration in front of each is the first one with the changes
made.  Its answer and its records are therefore those of a service that was started with that
configuration and gets this request first.  In particular the rules that a request asks for last as
long as the request.

Within a request, the same holds of the members of the value it carries.  The gate looks up four of
them by name; two values that agree on those are answered alike and logged alike, up to the client.
-/
import SqlGuard.Proofs.Http.Endpoint

namespace SqlGuard

/-! ### One request -/

/-- **Handling a request leaves the configuration as it was.** -/
theorem Config.config_handle (config : Config) (fw : Framework) (request : Request) :
    (config.handle fw request).config = config :=
  keeps_answer fw request request.faults { config, log := #[] }

/-- The configuration after changes to its entries, made in order. -/
def Config.after (config : Config) (changes : List (String × Json)) : Config :=
  changes.foldl (fun c change => c.set change.1 change.2) config

theorem Config.after_append (config : Config) (changes changes' : List (String × Json)) :
    config.after (changes ++ changes') = (config.after changes).after changes' :=
  List.foldl_append

/-- A handler behind changes to entries runs under the changed configuration. -/
theorem Handler.setEntries_bind {α : Type} (changes : List (String × Json)) (x : Handler α)
    (faults : Faults) (running : Running) :
    ((changes.forM fun change => Handler.setEntry change.1 change.2) >>= fun _ => x)
        faults running =
      x faults { running with config := running.config.after changes } := by
  induction changes generalizing running with
  | nil => rfl
  | cons change changes ih => exact ih { running with config := running.config.set _ _ }

/-! ### One request after the other -/

/-- The configuration that a request finds if the requests before it leave no trace: the first one,
with the changes up to the request made. -/
def Config.foundBy (config : Config) (history : List (List (String × Json) × Request))
    (k : Nat) : Config :=
  config.after ((history.take (k + 1)).flatMap Prod.fst)

/-- A request passes on the configuration that it found. -/
theorem Config.handleAll_cons (config : Config) (fw : Framework) (changes : List (String × Json))
    (request : Request) (later : List (List (String × Json) × Request)) :
    config.handleAll fw ((changes, request) :: later) =
      (config.after changes).handle fw request :: (config.after changes).handleAll fw later := by
  have hrun : (config.run request.faults do
      changes.forM fun change => Handler.setEntry change.1 change.2
      answer fw request) = (config.after changes).handle fw request := by
    unfold Config.handle Config.run
    rw [Handler.setEntries_bind]
  rw [Config.handleAll, hrun, Config.config_handle]

/-- **Each request is handled under the configuration that it would find without the others.** -/
theorem Config.getElem?_handleAll (config : Config) (fw : Framework)
    (history : List (List (String × Json) × Request)) (k : Nat) :
    (config.handleAll fw history)[k]? =
      history[k]?.map fun p => (config.foundBy history k).handle fw p.2 := by
  induction history generalizing config k with
  | nil => rfl
  | cons first later ih =>
      obtain ⟨changes, request⟩ := first
      rw [Config.handleAll_cons]
      cases k with
      | zero => simp [Config.foundBy]
      | succ k =>
          rw [List.getElem?_cons_succ, List.getElem?_cons_succ, ih]
          unfold Config.foundBy
          rw [List.take_succ_cons, List.flatMap_cons, Config.after_append]

/-- What a request finds depends on the changes only, and not on the requests before it. -/
theorem Config.foundBy_congr (config : Config)
    {history history' : List (List (String × Json) × Request)}
    (h : history.map Prod.fst = history'.map Prod.fst) (k : Nat) :
    config.foundBy history k = config.foundBy history' k := by
  unfold Config.foundBy
  rw [List.flatMap_def, List.flatMap_def, List.map_take, List.map_take, h]

/-! ### One member beside the other -/

/-- Two requests of one client to one endpoint are handled alike if the objects they carry
agree on the members that are looked at. -/
theorem Config.handle_congr {fw : Framework} (hfw : fw.Documented) {config : Config}
    {r₁ r₂ : Request} {e : Endpoint} (h₁ : r₁.Posts fw e) (h₂ : r₂.Posts fw e)
    (hclient : r₁.client = r₂.client) {members₁ members₂ : List (String × Json)}
    (hp₁ : fw.payload config.maxContentLength r₁ = .ok (some (.obj members₁)))
    (hp₂ : fw.payload config.maxContentLength r₂ = .ok (some (.obj members₂)))
    (hread : ∀ name ∈ readNames, members₁.lookup name = members₂.lookup name) :
    config.handle fw r₁ = config.handle fw r₂ := by
  have hverdict := config.verdict_congr hread
  rcases verdict_cases config (some (.obj members₂)) with
    ⟨-, s, rules, -, -, -, -, -, hpassed⟩ | ⟨refusal, hrefused⟩ | ⟨cause, hcrash⟩
  · rw [Config.handle_of_passed hfw h₁ hp₁ (hverdict.trans hpassed),
      Config.handle_of_passed hfw h₂ hp₂ hpassed, hclient]
  · rw [Config.handle_of_refused hfw h₁ hp₁ (hverdict.trans hrefused),
      Config.handle_of_refused hfw h₂ hp₂ hrefused]
  · rw [Config.handle_of_crash hfw h₁ hp₁ (hverdict.trans hcrash),
      Config.handle_of_crash hfw h₂ hp₂ hcrash]

/-- **Requests do not influence one another, and unknown members have no influence.**  In any
history a request is answered and logged as if it were sent alone to a service with the
configuration that it finds, and it leaves that configuration.  It finds the same whatever the
requests before it asked for.  And two values that agree on the query and on the three overrides,
in presence as in value, are answered and logged alike whatever else they hold. -/
theorem requests_independent {fw : Framework} (hfw : fw.Documented) (config : Config) :
    (∀ (history : List (List (String × Json) × Request)) (k : Nat)
        (changes : List (String × Json)) (request : Request),
        history[k]? = some (changes, request) →
        (config.handleAll fw history)[k]?.toList =
            (config.foundBy history k).handleAll fw [([], request)] ∧
          ((config.handleAll fw history)[k]?.map Handled.config) =
            some (config.foundBy history k)) ∧
      (∀ (history history' : List (List (String × Json) × Request)) (k : Nat),
        history.map Prod.fst = history'.map Prod.fst → history[k]? = history'[k]? →
        (config.handleAll fw history)[k]? = (config.handleAll fw history')[k]?) ∧
      (config.maxContentLength = .none →
        ∀ (e : Endpoint) (r₁ r₂ : Request) (members₁ members₂ : List (String × Json)),
          r₁.Posts fw e → r₂.Posts fw e → r₁.client = r₂.client →
          fw.payload .none r₁ = .ok (some (.obj members₁)) →
          fw.payload .none r₂ = .ok (some (.obj members₂)) →
          (∀ name ∈ ["query", "requireFilterClause", "allowDrop", "allowTruncate"],
            members₁.lookup name = members₂.lookup name) →
          config.handle fw r₁ = config.handle fw r₂) := by
  refine ⟨?_, ?_, ?_⟩
  · intro history k changes request hk
    rw [config.getElem?_handleAll, hk, Option.map_some, Option.map_some, Config.config_handle,
      Config.handleAll_cons]
    exact ⟨rfl, rfl⟩
  · intro history history' k hchanges hk
    rw [config.getElem?_handleAll, config.getElem?_handleAll, hk,
      config.foundBy_congr hchanges]
  · intro hbody e r₁ r₂ members₁ members₂ h₁ h₂ hclient hp₁ hp₂ hread
    rw [← hbody] at hp₁ hp₂
    exact Config.handle_congr hfw h₁ h₂ hclient hp₁ hp₂ hread

/-- A value that asks for all checks to be dropped by a name that nobody knows. -/
def lenientDelete : Text :=
  "\x7b\"query\":\"DELETE FROM t\",\"strictMode\":false\x7d".toList

/-- The same value without that name. -/
def plainDelete : Text :=
  "\x7b\"query\":\"DELETE FROM t\"\x7d".toList

/-- A value that drops the check by its name. -/
def unfilteredDelete : Text :=
  "\x7b\"query\":\"DELETE FROM t\",\"requireFilterClause\":false\x7d".toList

/-- An unknown name changes nothing, and a known one nothing for the request behind it. -/
theorem requests_independent_delete :
    let fw := Framework.standard { maxDepth := 1, lone := fun _ => Utf8.replacement }
    let config : Config :=
      { maxQueryLength := .none, rules := .settings, flags := fun _ => .null, logLevel := 20,
        pageSize := 0 }
    let lenient := Endpoint.validate.post "127.0.0.1" lenientDelete
    let plain := Endpoint.validate.post "127.0.0.1" plainDelete
    let unfiltered := Endpoint.validate.post "127.0.0.1" unfilteredDelete
    config.handle fw lenient = config.handle fw plain ∧
      (config.handleAll fw [([], unfiltered), ([], plain)])[1]? =
        (config.handleAll fw [([], plain), ([], plain)])[1]? ∧
      (config.handleAll fw [([], unfiltered), ([], plain)])[1]?.toList =
        config.handleAll fw [([], plain)] := by
  intro fw config lenient plain unfiltered
  obtain ⟨halone, hhistory, hmembers⟩ :=
    requests_independent (Framework.documented_standard
      { maxDepth := 1, lone := fun _ => Utf8.replacement }) config
  have hlenient : fw.payload .none lenient =
      .ok (some (.obj [("query", .str "DELETE FROM t"), ("strictMode", .bool false)])) :=
    Endpoint.payload_post _ .validate _ (by decide +kernel) rfl
  have hplain : fw.payload .none plain = .ok (some (.obj [("query", .str "DELETE FROM t")])) :=
    Endpoint.payload_post _ .validate _ (by decide +kernel) rfl
  have hclient : lenient.client = "127.0.0.1" := rfl
  have hclient' : plain.client = "127.0.0.1" := rfl
  refine ⟨?_, ?_, ?_⟩
  · refine hmembers rfl .validate lenient plain _ _ (Endpoint.posts_post _ _ _ _)
      (Endpoint.posts_post _ _ _ _) (hclient.trans hclient'.symm) hlenient hplain ?_
    intro name hname
    simp only [List.mem_cons, List.not_mem_nil, or_false] at hname
    rcases hname with rfl | rfl | rfl | rfl <;> rfl
  · exact hhistory [([], unfiltered), ([], plain)] [([], plain), ([], plain)] 1
      (by simp) (by simp)
  · have hfound : config.foundBy [([], unfiltered), ([], plain)] 1 = config := rfl
    rw [(halone [([], unfiltered), ([], plain)] 1 [] plain (by simp)).1, hfound]

end SqlGuard
