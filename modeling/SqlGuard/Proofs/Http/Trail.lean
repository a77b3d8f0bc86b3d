/-
The log of a posted query matches the answer.

The records of a request come from three places in one stream: the engine tells how it divides
the input and what it finds, the audit trail tells the outcome, and behind it tells of each
fix.  A repair checks twice, so most of the stream is said twice; the outcome is not.  What
the engine writes carries no data, and of its records only those about a fixed statement are
meant for a log that leaves out the details.

`post_audited` reads everything off the answer: the report and the fixes that the client got
are compared with the records, whichever endpoint it was.
-/
import SqlGuard.Proofs.Http.Endpoint

namespace SqlGuard

/-! ### Reading records and answers -/

/-- The record carries data of this name. -/
def Record.Carries (r : Record) (name : String) : Prop :=
  name ∈ r.fields.map Prod.fst

/-- The record tells of a statement that was fixed. -/
def Record.tellsOfFix (r : Record) : Bool :=
  "Fixed query ".toList.isPrefixOf r.message.toList

/-- A record without data that tells of no fix. -/
structure Record.IsPlain (r : Record) : Prop where
  fields_eq : r.fields = []
  not_fix : r.tellsOfFix = false

/-- The report that an answer holds. -/
def Endpoint.answeredReport (answer : List (String × Json)) : Endpoint → List (String × Json)
  | .validate => answer
  | .repair =>
    match answer.lookup "validation" with
    | some (.obj members) => members
    | _ => []

/-- The fixes that an answer lists; a check lists none. -/
def Endpoint.answeredFixes (answer : List (String × Json)) : Endpoint → List Json
  | .validate => []
  | .repair =>
    match answer.lookup "fixesApplied" with
    | some (.arr fixes) => fixes
    | _ => []

/-- What the audit trail takes from a report, by its name there and in the answer. -/
def auditedMembers : List (String × String) :=
  [("is_valid", "isValid"), ("statement_count", "statementCount"),
    ("dangerous_count", "dangerousCount"), ("active_filter_count", "activeFilterCount")]

/-- The record tells of an answered report and of the rules it was made under. -/
structure Record.Audits (r : Record) (report : List (String × Json)) (rules : Rules) : Prop where
  warns_iff : r.severity = .warning ↔ report.lookup "isValid" = some (.bool false)
  informs_iff : r.severity = .info ↔ report.lookup "isValid" ≠ some (.bool false)
  report_eq : ∀ p ∈ auditedMembers, ∃ v,
    r.fields.lookup p.1 = some v ∧ report.lookup p.2 = some v
  rules_eq : ∀ rule : Rule, r.fields.lookup rule.fieldName = some (.bool (rules.get rule))

/-- The record and the line tell of the same statement of the input. -/
def TellsOf (input : Text) (r : Record) (fix : String) : Prop :=
  ∃ (i : Nat) (s clause : Text), (statements input)[i]? = some s ∧
    r = { severity := .info, message := s!"Fixed query {i + 1}: " ++ String.ofList (mended s) } ∧
    fix = fixMessage (i + 1) clause

/-! ### What a logger lets through -/

theorem visible_append (level : Nat) (l l' : List Record) :
    visible level (l ++ l') = visible level l ++ visible level l' :=
  List.filter_append ..

/-- Records at or above the threshold are all let through. -/
theorem visible_eq_self {level : Nat} {l : List Record}
    (h : ∀ r ∈ l, threshold level ≤ r.severity.level) : visible level l = l := by
  refine List.filter_eq_self.2 ?_
  intro r hr
  simpa using h r hr

/-- A choice of records at or above the threshold is let through as a whole. -/
theorem filter_visible {level : Nat} {l : List Record} {p : Record → Bool}
    (h : ∀ r ∈ l, p r = true → threshold level ≤ r.severity.level) :
    (visible level l).filter p = l.filter p := by
  unfold visible
  rw [List.filter_filter]
  refine List.filter_congr ?_
  intro r hr
  cases hp : p r with
  | false => rfl
  | true => simpa using h r hr hp

/-- A logger for details or for information lets through all but the details. -/
theorem threshold_le {level : Nat}
    (hlevel : level = Severity.info.level ∨ level = Severity.debug.level) {severity : Severity}
    (h : severity ≠ .debug) : threshold level ≤ severity.level := by
  have hthreshold : threshold level ≤ Severity.info.level := by
    rcases hlevel with rfl | rfl <;> decide
  refine hthreshold.trans ?_
  cases severity with
  | debug => exact absurd rfl h
  | _ => decide

/-! ### What the engine writes -/

theorem head?_toList_append {m rest : String} {c : Char} (h : m.toList.head? = some c) :
    (m ++ rest).toList.head? = some c := by
  rw [String.toList_append, List.head?_append, h]
  rfl

/-- The first character of a message is enough to tell that it is about no fix. -/
theorem Record.isPlain_of_head {severity : Severity} {message : String} {c : Char}
    (h : message.toList.head? = some c) (hc : c ≠ 'F') :
    Record.IsPlain { severity, message } := by
  obtain ⟨rest, hrest⟩ := List.head?_eq_some_iff.1 h
  have hstart : "Fixed query ".toList = 'F' :: "ixed query ".toList := by decide
  refine ⟨rfl, ?_⟩
  unfold Record.tellsOfFix
  rw [hrest, hstart, List.isPrefixOf_cons_cons]
  simp [hc.symm]

theorem filter_tellsOfFix_of_isPlain {l : List Record} (h : ∀ r ∈ l, r.IsPlain) :
    l.filter Record.tellsOfFix = [] := by
  refine List.filter_eq_nil_iff.2 ?_
  intro r hr
  simp [(h r hr).not_fix]

namespace Engine

theorem tellsOfFix_fixedRecord (index : Int) (a : Activation) :
    (fixedRecord index a).tellsOfFix = true := by
  have hmessage : (fixedRecord index a).message =
      "Fixed query " ++ (toString index ++ ": " ++ String.ofList a.text) := by
    unfold fixedRecord fixedMessage
    simp only [String.append_assoc]
    rfl
  unfold Record.tellsOfFix
  rw [hmessage, String.toList_append, List.isPrefixOf_iff_prefix]
  exact List.prefix_append _ _

theorem isPlain_of_mem_splitRecords {input : Text} :
    ∀ r ∈ splitRecords input, r.IsPlain := by
  intro r hr
  unfold splitRecords at hr
  split at hr
  · simp at hr
  · obtain rfl := List.mem_singleton.1 hr
    refine Record.isPlain_of_head (c := 'S') ?_ (by decide)
    iterate 2 refine head?_toList_append ?_
    decide

/-- A check writes plain records only. -/
theorem isPlain_of_mem_checkRecords {rules : Rules} {input : Text} :
    ∀ r ∈ checkRecords rules input, r.IsPlain := by
  intro r hr
  unfold checkRecords at hr
  simp only [List.mem_append, List.mem_map, List.mem_singleton] at hr
  rcases hr with (hsplit | ⟨p, -, rfl⟩) | rfl
  · exact isPlain_of_mem_splitRecords r hsplit
  · refine Record.isPlain_of_head (c := 'Q') ?_ (by decide)
    unfold scanMessage
    iterate 7 refine head?_toList_append ?_
    decide
  · refine Record.isPlain_of_head (c := 'V') ?_ (by decide)
    unfold completedMessage
    iterate 5 refine head?_toList_append ?_
    decide

/-- The records of the repairs among statements. -/
def fixedRecords (ss : List Text) : List Record :=
  ss.zipIdx.filterMap fun p => (repairOf? p.1).map (fixedRecord (p.2 + 1))

theorem mendRecords_eq (rules : Rules) (input : Text) :
    mendRecords ((statements input).zip (SqlGuard.validate rules input).statements) =
      fixedRecords (statements input) := by
  unfold mendRecords fixedRecords
  rw [zip_statements_validate, List.filterMap_map]
  congr 1
  funext p
  simp only [Function.comp_apply]
  rw [repairStatement?_checkStatement, checkStatement_index]

theorem mem_fixedRecords {ss : List Text} {r : Record} (h : r ∈ fixedRecords ss) :
    ∃ index a, r = fixedRecord index a := by
  obtain ⟨p, -, hp⟩ := List.mem_filterMap.1 h
  obtain ⟨a, -, rfl⟩ := Option.map_eq_some_iff.1 hp
  exact ⟨_, a, rfl⟩

/-- The records and the lines of the repairs tell of the same statements. -/
theorem forall₂_fixedRecords (input : Text) :
    List.Forall₂ (TellsOf input) (fixedRecords (statements input))
      (fixLines (statements input)) := by
  have hsub : ∀ p ∈ (statements input).zipIdx, (statements input)[p.2]? = some p.1 :=
    fun p hp => List.mk_mem_zipIdx_iff_getElem?.1 hp
  unfold fixedRecords fixLines
  revert hsub
  generalize (statements input).zipIdx = pairs
  intro hsub
  induction pairs with
  | nil => exact .nil
  | cons p pairs ih =>
      have hrest := ih fun q hq => hsub q (List.mem_cons_of_mem _ hq)
      rw [List.filterMap_cons, List.filterMap_cons]
      cases hrep : repairOf? p.1 with
      | none => exact hrest
      | some a =>
          have htext : a.text = mended p.1 := by
            rw [← textOr_repairOf?, hrep]
            rfl
          refine .cons ⟨p.2, p.1, a.clause, hsub p List.mem_cons_self, ?_, rfl⟩ hrest
          rw [← htext]
          rfl

/-- Of the records of a repair, those that tell of a fix are the ones of the mended
statements; all else is said by the checks. -/
theorem filter_repairRecords (rules : Rules) (input : Text) :
    (repairRecords rules input).filter Record.tellsOfFix = fixedRecords (statements input) := by
  unfold repairRecords
  simp only [List.filter_append, filter_tellsOfFix_of_isPlain isPlain_of_mem_checkRecords,
    List.nil_append, List.append_nil]
  split
  next hkept =>
    -- An input that is kept has no fix in its answer, so there is no record to miss.
    have hnone : fixLines (statements input) = [] := by
      rw [← fixes_eq rules]
      unfold SqlGuard.repair repairReported
      rw [if_pos hkept]
      rfl
    have hpaired := forall₂_fixedRecords input
    rw [hnone, List.forall₂_nil_right_iff] at hpaired
    rw [hpaired]
    rfl
  next =>
    rw [List.filter_append, filter_tellsOfFix_of_isPlain isPlain_of_mem_splitRecords,
      List.nil_append, mendRecords_eq]
    refine List.filter_eq_self.2 ?_
    intro r hr
    obtain ⟨index, a, rfl⟩ := mem_fixedRecords hr
    exact tellsOfFix_fixedRecord index a

/-- What a repair writes is what a check writes, or tells of a fix. -/
theorem mem_repairRecords {rules : Rules} {input : Text} {r : Record}
    (h : r ∈ repairRecords rules input) :
    r.IsPlain ∨ ∃ index a, r = fixedRecord index a := by
  unfold repairRecords at h
  simp only [List.mem_append] at h
  rcases h with (hbefore | hmend) | hafter
  · exact Or.inl (isPlain_of_mem_checkRecords r hbefore)
  · split at hmend
    · simp at hmend
    · rw [mendRecords_eq] at hmend
      exact (List.mem_append.1 hmend).imp (isPlain_of_mem_splitRecords r) mem_fixedRecords
  · exact Or.inl (isPlain_of_mem_checkRecords r hafter)

end Engine

/-! ### What an endpoint writes -/

namespace Endpoint

variable (rules : Rules) (query : Text)

theorem mem_engineRecords (e : Endpoint) {r : Record} (h : r ∈ e.engineRecords rules query) :
    r.IsPlain ∨ ∃ index a, r = Engine.fixedRecord index a := by
  cases e with
  | validate => exact Or.inl (Engine.isPlain_of_mem_checkRecords r h)
  | repair => exact Engine.mem_repairRecords h

/-- What the engine writes carries no data. -/
theorem fields_of_mem_engineRecords (e : Endpoint) {r : Record}
    (h : r ∈ e.engineRecords rules query) : r.fields = [] := by
  rcases e.mem_engineRecords rules query h with hplain | ⟨index, a, rfl⟩
  · exact hplain.fields_eq
  · rfl

/-- The engine tells of the fixes in the answer, in their order. -/
theorem forall₂_engineRecords (e : Endpoint) {level : Nat}
    (hlevel : level = Severity.info.level ∨ level = Severity.debug.level) :
    List.Forall₂ (TellsOf query)
      ((visible level (e.engineRecords rules query)).filter Record.tellsOfFix)
      (e.fixes rules query) := by
  have hvisible : ∀ r ∈ e.engineRecords rules query, r.tellsOfFix = true →
      threshold level ≤ r.severity.level := by
    intro r hr hfix
    rcases e.mem_engineRecords rules query hr with hplain | ⟨index, a, rfl⟩
    · rw [hplain.not_fix] at hfix
      simp at hfix
    · exact threshold_le hlevel (by simp [Engine.fixedRecord])
  rw [filter_visible hvisible]
  cases e with
  | validate =>
      show List.Forall₂ _ ((Engine.checkRecords rules query).filter _) []
      rw [filter_tellsOfFix_of_isPlain Engine.isPlain_of_mem_checkRecords]
      exact .nil
  | repair =>
      show List.Forall₂ _ ((Engine.repairRecords rules query).filter _)
        (SqlGuard.repair rules query).fixes
      rw [Engine.filter_repairRecords, fixes_eq]
      exact Engine.forall₂_fixedRecords query

/-- The outcome and the fixes are seen by every logger that is told of them. -/
theorem visible_records (e : Endpoint) (client : Option String) {level : Nat}
    (hlevel : level = Severity.info.level ∨ level = Severity.debug.level) :
    visible level (e.records rules query client) =
      visible level (e.engineRecords rules query) ++
        (e.auditEntry rules query client).toRecord ::
          (e.fixes rules query).map (fixRecord repairEndpoint) := by
  unfold records
  rw [visible_append]
  congr 1
  refine visible_eq_self ?_
  intro r hr
  refine threshold_le hlevel ?_
  rcases List.mem_cons.1 hr with rfl | hfix
  · unfold AuditEntry.toRecord
    cases (e.auditEntry rules query client).report.isValid <;> simp
  · obtain ⟨fix, -, rfl⟩ := List.mem_map.1 hfix
    simp [fixRecord]

theorem answeredReport_outcome (e : Endpoint) :
    e.answeredReport (e.outcome rules query) = (e.report rules query).members := by
  cases e <;> rfl

theorem answeredFixes_outcome (e : Endpoint) :
    e.answeredFixes (e.outcome rules query) = (e.fixes rules query).map .str := by
  cases e <;> rfl

end Endpoint

theorem AuditEntry.audits_toRecord {entry : AuditEntry} {rules : Rules}
    (hrules : entry.rules = some rules) : entry.toRecord.Audits entry.report.members rules := by
  have hvalid : entry.report.members.lookup "isValid" = some (.bool entry.report.isValid) := rfl
  refine ⟨?_, ?_, ?_, ?_⟩
  · rw [hvalid]
    unfold toRecord
    cases entry.report.isValid <;> simp
  · rw [hvalid]
    unfold toRecord
    cases entry.report.isValid <;> simp
  · intro p hp
    simp only [auditedMembers, List.mem_cons, List.not_mem_nil, or_false] at hp
    rcases hp with rfl | rfl | rfl | rfl <;> exact ⟨_, rfl, rfl⟩
  · intro rule
    unfold toRecord fields
    rw [hrules]
    cases rule <;> rfl

/-- **The log matches the answer.**  A query that is refused leaves no record.  One that is
carried out leaves exactly one record of the outcome: a warning if the report in the answer
says that the input may not be executed, with the counts of that report and the rules in
force.  Before it, the records of fixed statements are those of the fixes in the answer, and
behind it each of these fixes is told of once more, both times in their order. -/
theorem post_audited {fw : Framework} (hfw : fw.Documented) {config : Config}
    (hlevel : config.logLevel = Severity.info.level ∨ config.logLevel = Severity.debug.level)
    {request : Request} {e : Endpoint} (hpost : request.Posts fw e) :
    ((config.handle fw request).response.status = 400 → (config.handle fw request).log = []) ∧
      ((config.handle fw request).response.status = 200 →
        ∃ members query base rules,
          fw.payload config.maxContentLength request = .ok (some (.obj members)) ∧
          members.lookup "query" = some (.str query) ∧
          config.baseRules = .ok base ∧ InForce base members rules ∧
          ∃ answer before audit after fixes,
            (config.handle fw request).response = .success answer ∧
            (config.handle fw request).log = before ++ audit :: after ∧
            audit.Carries "is_valid" ∧ (∀ r ∈ before ++ after, ¬ r.Carries "is_valid") ∧
            audit.Audits (e.answeredReport answer) rules ∧
            e.answeredFixes answer = fixes.map .str ∧
            List.Forall₂ (TellsOf query.toList) (before.filter Record.tellsOfFix) fixes ∧
            after.map Record.message = fixes.map ("auto-fix applied: " ++ ·)) := by
  rcases Config.handle_cases hfw config hpost with
    ⟨members, query, rules, base, hpayload, hquery, hbase, hforce, hhandle⟩ |
      ⟨refusal, hrefused⟩ | hother
  · refine ⟨fun hstatus => ?_, fun _ => ?_⟩
    · rw [hhandle] at hstatus
      exact absurd hstatus (by simp [Response.success, Response.ofMembers])
    · rw [e.visible_records rules query.toList _ hlevel] at hhandle
      refine ⟨members, query, base, rules, hpayload, hquery, hbase, hforce, _, _, _, _,
        e.fixes rules query.toList, congrArg Handled.response hhandle,
        congrArg Handled.log hhandle, ?_, ?_, ?_, e.answeredFixes_outcome ..,
        e.forall₂_engineRecords _ _ hlevel, ?_⟩
      · simp [Record.Carries, AuditEntry.toRecord, AuditEntry.fields]
      · intro r hr
        rcases List.mem_append.1 hr with hbefore | hafter
        · have hfields := e.fields_of_mem_engineRecords _ _ (List.mem_of_mem_filter hbefore)
          simp [Record.Carries, hfields]
        · obtain ⟨fix, -, rfl⟩ := List.mem_map.1 hafter
          simp [Record.Carries, fixRecord]
      · rw [e.answeredReport_outcome]
        exact AuditEntry.audits_toRecord rfl
      · rw [List.map_map]
        rfl
  · refine ⟨fun _ => congrArg Handled.log hrefused, fun hstatus => ?_⟩
    rw [hrefused] at hstatus
    exact absurd hstatus (by simp [Response.failure, Response.ofMembers])
  · constructor
    · intro hstatus
      rw [hstatus] at hother
      simp at hother
    · intro hstatus
      rw [hstatus] at hother
      simp at hother

/-- A statement that can be fixed, and one that cannot. -/
def halfFixable : String :=
  "DELETE FROM t -- WHERE a; DROP TABLE t"

/-- A value that holds them. -/
def halfFixableBody : Text :=
  "\x7b\"query\":\"DELETE FROM t -- WHERE a; DROP TABLE t\"\x7d".toList

/-- One fix is told of on both sides of a warning. -/
theorem post_audited_half_fixable :
    let fw := Framework.standard { maxDepth := 1, lone := fun _ => Utf8.replacement }
    let config : Config :=
      { maxQueryLength := .none, rules := .settings, flags := fun _ => .null, logLevel := 20,
        pageSize := 0 }
    ∃ before audit after,
      (config.handle fw (Endpoint.repair.post "127.0.0.1" halfFixableBody)).log =
        before ++ audit :: after ∧
      audit.severity = .warning ∧
      (before.filter Record.tellsOfFix).length = 1 ∧
      after.map Record.message =
        ["auto-fix applied: Query 1: Activated WHERE clause from comment: WHERE a"] := by
  intro fw config
  have hfw : fw.Documented := Framework.documented_standard _
  have hpost : (Endpoint.repair.post "127.0.0.1" halfFixableBody).Posts fw .repair :=
    Endpoint.posts_post _ _ _ _
  have hpayload : fw.payload config.maxContentLength
      (Endpoint.repair.post "127.0.0.1" halfFixableBody) =
        .ok (some (.obj [("query", .str halfFixable)])) :=
    Endpoint.payload_post _ .repair "127.0.0.1" (by decide +kernel) rfl
  have hverdict : config.verdict (some (.obj [("query", .str halfFixable)])) =
      .ok (.ok (halfFixable, {})) := by decide +kernel
  have hhandle := Config.handle_of_passed hfw hpost hpayload hverdict
  obtain ⟨-, hcarried⟩ := post_audited hfw (Or.inl rfl : config.logLevel = _ ∨ _) hpost
  obtain ⟨_, _, _, _, -, -, -, -, answer, before, audit, after, fixes, hanswer, hlog, -, -,
    haudits, hfixes, hbefore, hafter⟩ := hcarried (by rw [hhandle]; rfl)
  rw [hhandle] at hanswer
  obtain rfl : Endpoint.repair.outcome {} halfFixable.toList = answer := by
    simpa [Response.success, Response.ofMembers] using hanswer
  have hinvalid : (Endpoint.repair.report {} halfFixable.toList).isValid = false := by
    decide +kernel
  have hmade : Endpoint.repair.fixes {} halfFixable.toList = [fixMessage 1 "WHERE a".toList] := by
    decide +kernel
  obtain rfl : [fixMessage 1 "WHERE a".toList] = fixes := by
    rw [Endpoint.answeredFixes_outcome, hmade] at hfixes
    exact List.map_injective_iff.2 (fun _ _ => Json.str.inj) hfixes
  refine ⟨before, audit, after, hlog, ?_, hbefore.length_eq, hafter.trans (by decide +kernel)⟩
  rw [haudits.warns_iff, Endpoint.answeredReport_outcome]
  exact congrArg (fun b => some (Json.bool b)) hinvalid

end SqlGuard
