/-
The answer to a posted query.

Both endpoints answer in the same five ways.  Four of them are refusals, each with a wording
of its own, so the wording tells which check failed; the fifth is the outcome of the plain
functions, under the rules in force.  `post_answer` says of each when it is given, in terms of
the value that the request carries and of what the configuration holds.

A configuration can hold anything, and the first three checks do not care.  The other two
need entries that they make sense for.  `Config.Holds` asks for these: what limits the length
of a query, if anything does, is a number, and what stands for the rules, if anything does,
are rules.
-/
import SqlGuard.Proofs.Http.Endpoint

namespace SqlGuard

/-! ### The limit on a query -/

/-- Whether a value is a number; a truth value counts as one. -/
def Json.isNumber : Json → Bool
  | .bool _ | .int _ | .real _ => true
  | _ => false

/-- Whether a length is beyond what a setting allows: the setting is a number other than zero,
and the length is greater. -/
def exceedsLimit (limit : Json) (length : Nat) : Bool :=
  match limit with
  | .bool b => b && 1 < length
  | .int n => n != 0 && n < length
  | .real literal => !Double.isZero literal && Double.isBelow literal length
  | _ => false

/-- Zero and null set no limit, and neither does any other value that holds nothing. -/
theorem isExceeded_ofTruthy {limit : Json}
    (h : limit.isTruthy = true → limit.isNumber = true) (length : Nat) :
    (Limit.ofTruthy limit).isExceeded length = .ok (exceedsLimit limit length) := by
  unfold Limit.ofTruthy
  cases hfull : limit.isTruthy with
  | false =>
      cases limit <;> simp_all [Json.isTruthy, exceedsLimit, Limit.isExceeded]
  | true =>
      have hnumber := h hfull
      cases limit <;>
        simp_all [Json.isTruthy, Json.isNumber, exceedsLimit, Limit.isExceeded, Limit.ofJson]

/-! ### What a configuration holds -/

/-- The configuration holds `limit` for the length of a query, and has `base` for its rules: as
they stand, or as the settings describe them if none stand there. -/
structure Config.Holds (config : Config) (limit : Json) (base : Rules) : Prop where
  limit_eq : config.maxQueryLength = .ofTruthy limit
  number : limit.isTruthy = true → limit.isNumber = true
  base_eq : config.rules = .fixed base ∨
    config.rules = .settings ∧ base = Rules.ofFlags config.flags

/-- The configuration of every service that was started from settings is of this kind. -/
theorem Config.holds_ofSettings (s : Settings) (pageSize : Nat) :
    (Config.ofSettings s pageSize).Holds (.int s.maxQueryLength) s.rules :=
  ⟨rfl, fun _ => rfl, Or.inl rfl⟩

theorem Config.Holds.baseRules_eq {config : Config} {limit : Json} {base : Rules}
    (h : config.Holds limit base) : config.baseRules = .ok base := by
  unfold Config.baseRules
  rcases h.base_eq with hfixed | ⟨hsettings, hbase⟩
  · rw [hfixed]
  · rw [hsettings, hbase]

/-! ### Wordings -/

theorem Response.failure_inj {status : Nat} {m m' : String}
    (h : Response.failure status m = Response.failure status m') : m = m' := by
  simpa [Response.failure, Response.ofMembers] using h

theorem Response.success_ne_failure (members : List (String × Json)) (m : String) :
    Response.success members ≠ Response.failure 400 m := by
  intro h
  have hstatus : 200 = 400 := congrArg Response.status h
  omega

theorem Response.internalError_ne_failure (m : String) :
    Response.internalError ≠ Response.failure 400 m := by
  intro h
  have hstatus : 500 = 400 := congrArg Response.status h
  omega

/-- The wording for a query that is too long is that of no other refusal. -/
theorem Refusal.tooLong_message_ne (limit : Limit) {m : String}
    (hm : m.toList.take 7 ≠ "Query e".toList) : (Refusal.tooLong limit).message ≠ m := by
  have hlist : (Refusal.tooLong limit).message.toList =
      "Query exceeds the maximum length of ".toList ++
        (limit.shown.toList ++ " characters".toList) := by
    rw [← String.toList_append, ← String.toList_append, ← String.append_assoc]
    rfl
  rintro rfl
  refine hm ?_
  rw [hlist, List.take_append_of_le_length (by decide)]
  decide

/-! ### The answer -/

section Answer

variable {fw : Framework} (hfw : fw.Documented) {config : Config}
  (hbody : config.maxContentLength = .none) {request : Request} {e : Endpoint}
  (hpost : request.Posts fw e) {payload : Option Json}
  (hpayload : fw.payload .none request = .ok payload)
include hfw hbody hpost hpayload

theorem answer_of_refused {refusal : Refusal}
    (hverdict : config.verdict payload = .ok (.error refusal)) :
    (config.handle fw request).response = .failure 400 refusal.message := by
  rw [← hbody] at hpayload
  rw [Config.handle_of_refused hfw hpost hpayload hverdict]

/-- A request that crashes is not told why. -/
theorem answer_of_crash {cause : Crash}
    (hverdict : config.verdict payload = .error (.crash cause)) :
    (config.handle fw request).response = .internalError := by
  rw [← hbody] at hpayload
  rw [Config.handle_of_crash hfw hpost hpayload hverdict]

theorem answer_of_passed {s : String} {rules : Rules}
    (hverdict : config.verdict payload = .ok (.ok (s, rules))) :
    (config.handle fw request).response = .success (e.outcome rules s.toList) := by
  rw [← hbody] at hpayload
  rw [Config.handle_of_passed hfw hpost hpayload hverdict]

/-- A text within the limit is carried out under the rules in force. -/
theorem answer_of_text {limit : Json} {base : Rules} (hconfig : config.Holds limit base)
    {members : List (String × Json)} (hobj : payload = some (.obj members))
    {s : String} (hs : members.lookup queryField = some (.str s)) (hne : s ≠ "") :
    (exceedsLimit limit s.length = true ∧
        (config.handle fw request).response =
          .failure 400 (Refusal.tooLong (.ofTruthy limit)).message) ∨
      (exceedsLimit limit s.length = false ∧ ∃ rules, InForce base members rules ∧
        (config.handle fw request).response = .success (e.outcome rules s.toList)) := by
  have hverdict := verdict_of_text config hs hne
  unfold Config.verdictOnText at hverdict
  rw [hconfig.limit_eq, isExceeded_ofTruthy hconfig.number, String.length_toList, ← hobj]
    at hverdict
  cases hexceeds : exceedsLimit limit s.length with
  | true =>
      rw [hexceeds] at hverdict
      exact Or.inl ⟨rfl, answer_of_refused hfw hbody hpost hpayload hverdict⟩
  | false =>
      have hforce := inForce_assignAll base members
      have hrules := rulesFor_eq_ok_iff.2 ⟨base, hconfig.baseRules_eq, hforce⟩
      rw [hexceeds, hrules] at hverdict
      exact Or.inr ⟨rfl, _, hforce, answer_of_passed hfw hbody hpost hpayload hverdict⟩

/-- A text is not refused but for its length, whatever the configuration holds. -/
theorem refused_of_text {members : List (String × Json)} (hobj : payload = some (.obj members))
    {s : String} (hs : members.lookup queryField = some (.str s)) (hne : s ≠ "") {m : String}
    (h : (config.handle fw request).response = .failure 400 m) :
    m = (Refusal.tooLong config.maxQueryLength).message := by
  have hverdict := verdict_of_text config hs hne
  unfold Config.verdictOnText at hverdict
  rw [← hobj] at hverdict
  rcases hlimit : config.maxQueryLength.isExceeded s.toList.length with typeName | _ | _
  · rw [hlimit] at hverdict
    rw [answer_of_crash hfw hbody hpost hpayload hverdict] at h
    exact absurd h (Response.internalError_ne_failure m)
  · rcases rulesFor_cases config members with ⟨rules, hrules⟩ | ⟨cause, hcrash⟩
    · rw [hlimit, hrules] at hverdict
      rw [answer_of_passed hfw hbody hpost hpayload hverdict] at h
      exact absurd h (Response.success_ne_failure _ m)
    · rw [hlimit, hcrash] at hverdict
      rw [answer_of_crash hfw hbody hpost hpayload hverdict] at h
      exact absurd h (Response.internalError_ne_failure m)
  · rw [hlimit] at hverdict
    rw [answer_of_refused hfw hbody hpost hpayload hverdict] at h
    exact (Response.failure_inj h).symm

/-- What is wrong with a query that is refused can be read off the wording. -/
theorem refused_cases {members : List (String × Json)} (hobj : payload = some (.obj members))
    {m : String} (h : (config.handle fw request).response = .failure 400 m) :
    (m = Refusal.notText.message ∧
        ∃ v, members.lookup queryField = some v ∧ v ≠ .null ∧ ∀ s, v ≠ .str s) ∨
      (m = Refusal.required.message ∧ (members.lookup queryField = none ∨
        members.lookup queryField = some .null ∨ members.lookup queryField = some (.str ""))) ∨
      m = (Refusal.tooLong config.maxQueryLength).message := by
  rcases queryMember_cases (members.lookup queryField) with
    hmissing | ⟨s, hquery, hne⟩ | ⟨v, hquery, hnull, htext⟩
  · have hverdict := verdict_of_missing config hmissing
    rw [← hobj] at hverdict
    rw [answer_of_refused hfw hbody hpost hpayload hverdict] at h
    exact Or.inr (Or.inl ⟨(Response.failure_inj h).symm, hmissing⟩)
  · exact Or.inr (Or.inr (refused_of_text hfw hbody hpost hpayload hobj hquery hne h))
  · have hverdict := verdict_of_not_text config hquery hnull htext
    rw [← hobj] at hverdict
    rw [answer_of_refused hfw hbody hpost hpayload hverdict] at h
    exact Or.inl ⟨(Response.failure_inj h).symm, v, hquery, hnull, htext⟩

end Answer

/-- **The answer to a posted query.**  Whatever the framework gives for the value that a request
carries: one that is no object is told so; a query that is neither a text nor null is refused;
then one that is missing, null or empty; then one that is longer than the limit, if there is one.
Any other query is answered with success and the outcome under the rules in force. -/
theorem post_answer {fw : Framework} (hfw : fw.Documented) {config : Config}
    (hbody : config.maxContentLength = .none) {request : Request} {e : Endpoint}
    (hpost : request.Posts fw e) {payload : Option Json}
    (hpayload : fw.payload .none request = .ok payload) :
    ((config.handle fw request).response = .failure 400 "Request body is required" ↔
        ∀ members, payload ≠ some (.obj members)) ∧
      ∀ members, payload = some (.obj members) →
        ((config.handle fw request).response = .failure 400 "Query must be a string" ↔
            ∃ v, members.lookup "query" = some v ∧ v ≠ .null ∧ ∀ s, v ≠ .str s) ∧
          ((config.handle fw request).response = .failure 400 "Query is required" ↔
            members.lookup "query" = none ∨ members.lookup "query" = some .null ∨
              members.lookup "query" = some (.str "")) ∧
          ∀ s limit base, members.lookup "query" = some (.str s) → s ≠ "" →
            config.Holds limit base →
            ((config.handle fw request).response = .failure 400
                s!"Query exceeds the maximum length of {(Limit.ofTruthy limit).shown} characters" ↔
              exceedsLimit limit s.length = true) ∧
            (exceedsLimit limit s.length = false → ∃ rules, InForce base members rules ∧
              (config.handle fw request).response = .success (e.outcome rules s.toList)) := by
  have hlong : ∀ m : String, m.toList.take 7 ≠ "Query e".toList →
      m ≠ (Refusal.tooLong config.maxQueryLength).message :=
    fun m hm => (Refusal.tooLong_message_ne _ hm).symm
  refine ⟨⟨?_, ?_⟩, fun members hobj => ⟨⟨?_, ?_⟩, ⟨?_, ?_⟩, ?_⟩⟩
  · intro h members hobj
    rcases refused_cases hfw hbody hpost hpayload hobj h with ⟨hm, -⟩ | ⟨hm, -⟩ | hm
    · exact absurd hm (by decide)
    · exact absurd hm (by decide)
    · exact absurd hm (hlong _ (by decide))
  · intro hobj
    exact answer_of_refused hfw hbody hpost hpayload (verdict_of_not_object config hobj)
  · intro h
    rcases refused_cases hfw hbody hpost hpayload hobj h with ⟨-, hother⟩ | ⟨hm, -⟩ | hm
    · exact hother
    · exact absurd hm (by decide)
    · exact absurd hm (hlong _ (by decide))
  · rintro ⟨v, hquery, hnull, htext⟩
    have hverdict := verdict_of_not_text config hquery hnull htext
    rw [← hobj] at hverdict
    exact answer_of_refused hfw hbody hpost hpayload hverdict
  · intro h
    rcases refused_cases hfw hbody hpost hpayload hobj h with ⟨hm, -⟩ | ⟨-, hmissing⟩ | hm
    · exact absurd hm (by decide)
    · exact hmissing
    · exact absurd hm (hlong _ (by decide))
  · intro hmissing
    have hverdict := verdict_of_missing config hmissing
    rw [← hobj] at hverdict
    exact answer_of_refused hfw hbody hpost hpayload hverdict
  · intro s limit base hs hne hconfig
    rcases answer_of_text hfw hbody hpost hpayload hconfig hobj hs hne with
      ⟨hexceeds, hanswer⟩ | ⟨hwithin, rules, hforce, hanswer⟩
    · refine ⟨⟨fun _ => hexceeds, fun _ => hanswer⟩, fun hwithin => ?_⟩
      rw [hexceeds] at hwithin
      simp at hwithin
    · refine ⟨⟨fun h => ?_, fun hexceeds => ?_⟩, fun _ => ⟨rules, hforce, hanswer⟩⟩
      · rw [hanswer] at h
        exact absurd h (Response.success_ne_failure _ _)
      · rw [hexceeds] at hwithin
        simp at hwithin

/-- A value with a query of nineteen characters, one override, and one that says nothing. -/
def shortUpdate : Text :=
  "\x7b\"query\":\"UPDATE t -- WHERE a\",\"allowDrop\":\"Yes\",\"allowTruncate\":null\x7d".toList

/-- The defaults, but for a limit of nineteen characters. -/
def narrowSettings : Settings where
  maxQueryLength := 19
  levelName := Severity.info.name
  logLevel := Severity.info.level
  flags := Settings.defaultFlag
  rules := {}

/-- A query as long as the limit is carried out, under rules of which the request changes one. -/
theorem post_answer_at_limit :
    ((Config.ofSettings narrowSettings 0).handle
        (Framework.standard { maxDepth := 1, lone := fun _ => Utf8.replacement })
        (Endpoint.repair.post "127.0.0.1" shortUpdate)).response =
      .success (Endpoint.repair.outcome { allowDrop := true } "UPDATE t -- WHERE a".toList) := by
  have hread : Json.read { maxDepth := 1, lone := fun _ => Utf8.replacement } shortUpdate =
      .ok (.obj [("query", .str "UPDATE t -- WHERE a"), ("allowDrop", .str "Yes"),
        ("allowTruncate", .null)]) := rfl
  have hpayload := Endpoint.payload_post _ .repair "127.0.0.1" (by decide +kernel) hread
  have hbody : (Config.ofSettings narrowSettings 0).maxContentLength = .none := rfl
  obtain ⟨-, hobject⟩ := post_answer (Framework.documented_standard _) hbody
    (Endpoint.posts_post _ .repair _ _) hpayload
  obtain ⟨-, -, htext⟩ := hobject _ rfl
  obtain ⟨-, hcarried⟩ := htext "UPDATE t -- WHERE a" _ _ rfl (by decide)
    (Config.holds_ofSettings narrowSettings 0)
  obtain ⟨rules, hforce, hanswer⟩ := hcarried (by decide)
  have hrules : rules = { allowDrop := true } := by
    refine hforce.eq ?_
    intro isFinal rule
    cases rule <;> rfl
  rw [hrules] at hanswer
  exact hanswer

end SqlGuard
