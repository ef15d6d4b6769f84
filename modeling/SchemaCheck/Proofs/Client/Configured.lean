import SchemaCheck.Proofs.Client.Course
import SchemaCheck.Proofs.Config.Selection
import SchemaCheck.Proofs.Demo.Crowd

/-!
# Checks by configuration

A client lists what a provider has, a configuration selects among it, and the client checks the
request that comes of this. What is selected can always be served (`Client.selection_served`): the
check knows all rules, runs no others and none twice, and each sees the configured options. It runs
them all when none fails and nothing that is handed in before the last message is unsound. The last
condition cannot be dropped: a message is not sent after one whose drafts were refused, though no
rule failed (`Crowd.check_stops`).
-/

namespace SchemaCheck

/-- What to expect of the course of a check of the request that a configuration made. All rules are
known. Those run that were selected, none twice, and can read the options. A fault is that of a
rule, or says what is wrong with what the last rules handed in. And when no rule fails, and what the
rules of all messages but the last hand in is sound, every selected rule runs. -/
structure Config.Served (config : Config) (spec : Spec) (r : Request) (runs : List RuleRun)
    (result : Result Unit) : Prop where
  known : ∀ m ∈ r.messages, ∀ id ∈ m.ruleIds, id ∈ spec.ruleIds
  selected : ∀ run ∈ runs, run.rule ∈ spec.rules ∧ run.rule.id ∈ r.ruleIds
  options : ∀ run ∈ runs, ∀ o ∈ config.options, run.request.options.getText? o.1 = .ok (some o.2)
  once : (runs.map fun run => run.rule.id).Nodup
  fault : ∀ e, result = .error e → (∃ run ∈ runs, run.result = .error e) ∨
    ∃ last, last <:+ runs ∧ Fault.join (Collector.remembered r (RuleRun.log last)) = some e
  all : (∀ run ∈ runs, run.result = .ok ()) →
    (∀ m ∈ r.messages.dropLast, ∀ run ∈ runs, run.rule.id ∈ m.ruleIds →
      ∀ draft ∈ run.drafts, draft.Sound r run.rule.id) →
    (runs.map fun run => run.rule.id).Perm r.ruleIds

namespace Config

/-- The course of a check of a request that names declared rules is as expected, if the call is not
over. -/
theorem served_of_course {config : Config} {spec : Spec} {r : Request} {c d : CallContext}
    {runs : List RuleRun} {result : Result Unit} (hspec : spec.ruleIds.Nodup)
    (hne : r.ruleIds ≠ []) (hknown : ∀ id ∈ r.ruleIds, id ∈ spec.ruleIds)
    (hoptions : ∀ o ∈ config.options, r.options.getText? o.1 = .ok (some o.2))
    (h : spec.Course r r.parts c runs result d) (hlive : d.isLive) :
    config.Served spec r runs result := by
  have hperm : ((r.parts.flatMap spec.chosen).map fun rule => rule.id).Perm r.ruleIds :=
    ((spec.chosen_parts_perm r).symm.map _).trans
      (Spec.map_id_chosen_perm hspec (r.ids_sorted.imp Std.ne_of_lt) hne hknown)
  have hids : (runs.map fun run => run.rule.id)
      = (runs.map RuleRun.rule).map fun rule => rule.id := by
    rw [List.map_map]
    rfl
  refine ⟨fun m hm id hid => ?_, fun run hrun => ?_, fun run hrun o ho => ?_, ?_, fun e he => ?_,
    fun hok hsound => ?_⟩
  · refine hknown id ?_
    rw [← r.flatMap_messages]
    exact List.mem_flatMap.2 ⟨m, hm, hid⟩
  · have hchosen : run.rule ∈ r.parts.flatMap spec.chosen :=
      h.map_rule_prefix.subset (List.mem_map_of_mem hrun)
    exact (Spec.mem_chosen_of_ne_nil hne).1 ((spec.chosen_parts_perm r).mem_iff.2 hchosen)
  · rw [(h.sameInputs run hrun).options]
    exact hoptions o ho
  · rw [hids]
    refine List.Nodup.sublist (h.map_rule_prefix.map _).sublist ?_
    exact hperm.nodup_iff.2 (r.ids_sorted.imp Std.ne_of_lt)
  · subst he
    rcases h.fault_cases with hrun | hlast | hended
    · exact .inl hrun
    · exact .inr hlast
    · exact absurd hlive (CallContext.not_isLive_of_check hended)
  · have hparts : ∀ ids ∈ r.parts, ids ≠ [] := by
      rcases r.parts_cases with ⟨hnil, -⟩ | ⟨-, hparts⟩
      · exact absurd hnil hne
      · exact hparts
    rw [hids, h.map_rule_eq hparts hlive hok ?_]
    · exact hperm
    intro ids hids run hrun hid
    refine hsound (r.message ids) ?_ run hrun hid
    rw [Request.messages_eq_map, ← List.map_dropLast]
    exact List.mem_map_of_mem hids

end Config

namespace Client

/-- Whatever a configuration selects of what a client lists can be served. A selection has only
rules that the spec offers, and if it is not empty it selects itself. The request names the rules
that were selected, and some. The check takes the one course that it can, which is as expected. -/
theorem selection_served {τ : Type} {c : Client τ} {p : Provider} (hc : c.IsLocal p)
    (hp : p.execution = .inOrder) (hbefore : p.spec.before = none) (config : Config) :
    let rules := p.spec.listedRules
    let categories := p.spec.listedCategories
    c.listRules.Gives (ClientState.Ready p.spec) rules ∧
    c.listCategories.Gives (ClientState.Ready p.spec) categories ∧
    (∀ ids, config.selectRules rules categories = .ok ids →
      (∀ id ∈ ids, p.spec.Offers config.use id) ∧
        (ids ≠ [] → ∀ other : Config, other.use = ids → other.except = [] →
          other.selectRules rules categories = .ok ids)) ∧
    ∀ files againstFiles r, config.request files againstFiles rules categories = .ok r →
      (∃ ids, config.selectRules rules categories = .ok ids ∧
        config.Makes files againstFiles ids r) ∧
      ((CheckMessage.codec.encode (r.message r.ruleIds)).depth ≤ 127 →
        ∀ s : Session (ClientState τ), ((c.check r).runIn s).2.context.isLive →
          ∃ runs result,
            p.spec.Course r r.parts s.context runs result ((c.check r).runIn s).2.context ∧
            ((c.check r).runIn s).1.map (fun _ => ()) = Call.lift result ∧
            config.Served p.spec r runs result) := by
  have hs : p.spec.Registered := Spec.isValid_iff_registered.1 p.valid
  refine ⟨listRules_gives hc, listCategories_gives hc, fun ids hids => ?_,
    fun files againstFiles r hr => ?_⟩
  · have hoffers := Config.offers_of_selectRules hs hids
    exact ⟨hoffers, fun hne other huse hexcept => Config.selectRules_eq_of_offers hs
      (Config.sorted_of_selectRules hids) hoffers hne huse hexcept⟩
  · obtain ⟨ids, hids, hmade⟩ := Config.made_of_request hr
    refine ⟨⟨ids, hids, hmade⟩, fun hdepth s hlive => ?_⟩
    have hknown : ∀ id ∈ r.ruleIds, id ∈ p.spec.ruleIds := by
      intro id hid
      rw [hmade.ruleIds] at hid
      obtain ⟨e, he, rfl, -⟩ := Config.offers_of_selectRules hs hids id hid
      obtain ⟨rule, hrule, rfl⟩ := List.mem_map.1 he
      exact List.mem_map.2 ⟨rule, hrule, rfl⟩
    obtain ⟨runs, result, hcourse, hresult⟩ :=
      check_course hc.transport hp hbefore hdepth hknown s
    exact ⟨runs, result, hcourse, hresult, Config.served_of_course hs.ruleIds_nodup
      hmade.ruleIds_ne_nil hknown hmade.options hcourse hlive⟩

/-- `selection_served` for a configuration that names the rule about files. -/
theorem selection_served_demo :
    let c : Client Unit := ofProvider Demo.fileProvider
    let spec := Demo.fileProvider.spec
    let config : Config := { use := [Demo.dialectRule.id] }
    c.IsLocal Demo.fileProvider ∧ Demo.fileProvider.execution = .inOrder ∧ spec.before = none ∧
    config.selectRules spec.listedRules spec.listedCategories = .ok [Demo.dialectRule.id] ∧
    config.request Demo.request.files [] spec.listedRules spec.listedCategories
      = .ok Demo.request ∧
    ∃ runs result, spec.Course Demo.request Demo.request.parts {} runs result {} ∧
      config.Served spec Demo.request runs result := by
  intro c spec config
  have hc : c.IsLocal Demo.fileProvider := ⟨rfl, by decide, by decide⟩
  have hs : spec.Registered := Spec.isValid_iff_registered.1 Demo.fileProvider.valid
  have hoffers : ∀ id ∈ [Demo.dialectRule.id], spec.Offers [Demo.dialectRule.id] id := by
    intro id hid
    obtain rfl := List.mem_singleton.1 hid
    exact ⟨Demo.dialectRule.toRuleEntry, List.mem_cons_self, rfl, fun h => nomatch h⟩
  have hselect : config.selectRules spec.listedRules spec.listedCategories
      = .ok [Demo.dialectRule.id] :=
    Config.selectRules_eq_of_offers hs Demo.request.ids_sorted hoffers (List.cons_ne_nil _ _)
      rfl rfl
  have hrequest : config.request Demo.request.files [] spec.listedRules spec.listedCategories
      = .ok Demo.request :=
    Config.request_eq_ok_iff.2 ⟨rfl, rfl, List.cons_ne_nil _ _, hselect, rfl⟩
  have hcalm : ∀ rule ∈ spec.rules, rule.handler.Calm := by
    intro rule hrule
    obtain rfl := List.mem_singleton.1 hrule
    exact Demo.rules_calm Demo.dialectRule (by simp [Demo.spec])
  have hstill : ((c.check Demo.request).runIn ⟨{}, { link := () }⟩).2.context = {} :=
    check_context (p := Demo.fileProvider) rfl rfl hcalm _
  have hlive : ((c.check Demo.request).runIn ⟨{}, { link := () }⟩).2.context.isLive := by
    rw [hstill]
    decide
  obtain ⟨-, -, -, hchecks⟩ := selection_served hc rfl rfl config
  obtain ⟨-, hcheck⟩ := hchecks _ _ _ hrequest
  obtain ⟨runs, result, hcourse, -, hserved⟩ := hcheck (by decide +kernel) _ hlive
  rw [hstill] at hcourse
  exact ⟨hc, rfl, rfl, hselect, hrequest, runs, result, hcourse, hserved⟩

end Client

/-! ## A check that stops -/

namespace Crowd

/-- A draft that is not sound, for it points into a file that it does not name. -/
def astray : Draft := { current := { path := some [4] } }

/-- Rules each of which hands in one such draft and does not fail. -/
def spec : Spec where
  rules := ids.map fun id =>
    { id, purpose := "Points into no file.", type := .lint, handler := fun _ _ => .give astray }

/-- The rules of the crowd have its identifiers. -/
theorem ruleIds_spec : spec.ruleIds = ids := by
  rw [Spec.ruleIds, spec, List.map_map]
  exact List.map_id' ids

/-- The rules of the crowd are those that the request names. -/
theorem mem_ruleIds_spec {id : String} : id ∈ spec.ruleIds ↔ id ∈ request.ruleIds := by
  rw [ruleIds_spec]
  exact Text.mem_sortedUnique.symm

/-- The rules of the crowd make a valid spec. -/
theorem isValid_spec : spec.IsValid := by
  refine isValid_of_perm (.of_eq ruleIds_spec) (List.nil_sublist _) fun e he => ?_
  obtain ⟨rule, hrule, rfl⟩ := List.mem_map.1 he
  obtain ⟨id, -, rfl⟩ := List.mem_map.1 hrule
  have hpurpose : "Points into no file." ≠ "" := by decide
  exact ⟨hpurpose, rfl, rfl, rfl⟩

/-- A provider of the crowd. -/
def provider : Provider := ⟨spec, isValid_spec, .inOrder⟩

/-- The configuration that uses all rules of the crowd. -/
def config : Config := { use := Text.sortedUnique ids }

/-- The configuration makes the request. -/
theorem request_eq : config.request request.files [] spec.listedRules spec.listedCategories
    = .ok request := by
  have hoffers : ∀ id ∈ request.ruleIds, spec.Offers request.ruleIds id := by
    intro id hid
    obtain ⟨rule, hrule, rfl⟩ := List.mem_map.1 (mem_ruleIds_spec.2 hid)
    refine ⟨rule.toRuleEntry, List.mem_map.2 ⟨rule, hrule, rfl⟩, rfl, fun hdeprecated => ?_⟩
    obtain ⟨id, -, rfl⟩ := List.mem_map.1 hrule
    cases hdeprecated
  have hselect : config.selectRules spec.listedRules spec.listedCategories = .ok request.ruleIds :=
    Config.selectRules_eq_of_offers (Spec.isValid_iff_registered.1 isValid_spec)
      request.ids_sorted hoffers ruleIds_ne_nil rfl rfl
  exact Config.request_eq_ok_iff.2 ⟨rfl, rfl, ruleIds_ne_nil, hselect, rfl⟩

/-- No rule of the crowd fails, and each hands in its draft. -/
theorem handler_runs {rule : RuleSpec} (hrule : rule ∈ spec.rules) {r : Request}
    {c d : CallContext} {drafts : List Draft} {result : Result Unit}
    (h : (rule.handler rule.id r).Runs c drafts result d) :
    drafts = [astray] ∧ result = .ok () := by
  obtain ⟨id, -, rfl⟩ := List.mem_map.1 hrule
  obtain ⟨hdrafts, hresult, -⟩ := h.unique (.emit (.done _ c))
  exact ⟨hdrafts, hresult⟩

/-- A draft that points astray is not sound. -/
theorem not_sound_astray (r : Request) (id : String) : ¬ astray.Sound r id := by
  intro h
  rw [Draft.sound_iff] at h
  cases h

/-- Each message names some rules. -/
theorem ne_nil_of_mem_parts {part : List String} (hmem : part ∈ request.parts) : part ≠ [] := by
  rcases request.parts_cases with ⟨hnil, -⟩ | ⟨-, hall⟩
  · exact absurd hnil ruleIds_ne_nil
  · exact hall part hmem

/-- A message chooses as many rules as it names. -/
theorem length_chosen {part : List String} (hmem : part ∈ request.parts) :
    (spec.chosen part).length = part.length := by
  have hknown : ∀ id ∈ part, id ∈ spec.ruleIds := fun id hid =>
    mem_ruleIds_spec.2 ((Request.sublist_of_mem_parts hmem).subset hid)
  have hnodup : part.Nodup := (Request.sorted_of_mem_parts hmem).imp Std.ne_of_lt
  have hperm := Spec.map_id_chosen_perm isValid_spec.nodup_ruleIds hnodup
    (ne_nil_of_mem_parts hmem) hknown
  rw [← hperm.length_eq, List.length_map]

/-- When all rules of a message have run, one has handed in what is not sound. -/
theorem exists_not_sound {part : List String} (hmem : part ∈ request.parts) {r r' : Request}
    {c d : CallContext} {runs : List RuleRun}
    (h : RuleSpec.Course r (spec.chosen part) c runs (.ok ()) d) :
    ∃ e ∈ RuleRun.log runs, ¬ e.2.Sound r' e.1 := by
  have hpos : 0 < (spec.chosen part).length := by
    rw [length_chosen hmem]
    exact List.length_pos_iff.2 (ne_nil_of_mem_parts hmem)
  obtain ⟨rule, hrule⟩ := List.exists_mem_of_length_pos hpos
  rw [← h.map_rule_eq] at hrule
  obtain ⟨run, hrun, rfl⟩ := List.mem_map.1 hrule
  obtain ⟨_, _, hhandler⟩ := h.exists_runs run hrun
  have hdeclared : run.rule ∈ spec.rules :=
    Spec.mem_of_mem_chosen (h.map_rule_prefix.subset (List.mem_map_of_mem hrun))
  have hdrafts := (handler_runs hdeclared hhandler).1
  exact ⟨(run.rule.id, astray),
    RuleRun.mem_log.2 ⟨run, hrun, astray, hdrafts ▸ List.mem_cons_self, rfl⟩,
    not_sound_astray _ _⟩

/-- The check of a request for all rules of the crowd runs those of the first message only. -/
theorem length_le_of_course {runs : List RuleRun} {result : Result Unit} {d : CallContext}
    (h : spec.Course request request.parts {} runs result d) (hlive : d.isLive) :
    runs.length ≤ 250 := by
  have hbound : ∀ part ∈ request.parts, ∀ {r c result d},
      RuleSpec.Course r (spec.chosen part) c runs result d → runs.length ≤ 250 := by
    intro part hmem r c result d hruns
    have hlength := hruns.map_rule_prefix.length_le
    rw [List.length_map, length_chosen hmem] at hlength
    exact hlength.trans (Request.length_le_of_mem_parts hmem)
  cases hparts : request.parts with
  | nil =>
    rw [hparts] at h
    cases h
    exact Nat.zero_le _
  | cons part rest =>
    have hmem : part ∈ request.parts := hparts ▸ List.mem_cons_self
    rw [hparts] at h
    cases h with
    | next hs hv _ hruns hsound _ =>
      obtain ⟨e, he, hnot⟩ := exists_not_sound hmem hruns
      exact absurd (hsound e he) hnot
    | fails hs hv _ hruns => exact hbound part hmem hruns
    | refused hs hv _ hruns _ => exact hbound part hmem hruns
    | ended hended => exact absurd (by decide) (CallContext.not_isLive_of_check hended)

/-- No rule of the crowd fails and the call stays live, but the check does not run all rules that
the configuration selects: what the rules of the first message hand in is refused, and the second
message is not sent. -/
theorem check_stops :
    let c : Client Unit := Client.ofProvider provider
    let run := (c.check request).runIn ⟨{}, { link := () }⟩
    config.request request.files [] spec.listedRules spec.listedCategories = .ok request ∧
    (CheckMessage.codec.encode (request.message request.ruleIds)).depth ≤ 127 ∧
    run.2.context.isLive ∧
    ∃ runs result, spec.Course request request.parts {} runs result run.2.context ∧
      run.1.map (fun _ => ()) = Call.lift result ∧ (∀ run ∈ runs, run.result = .ok ()) ∧
      ¬ (runs.map fun run => run.rule.id).Perm request.ruleIds := by
  intro c run
  have hcalm : ∀ rule ∈ spec.rules, rule.handler.Calm := by
    intro rule hrule id r
    obtain ⟨id, -, rfl⟩ := List.mem_map.1 hrule
    exact Activity.calm_give astray
  have hlive : run.2.context.isLive := by
    rw [Client.check_context (p := provider) rfl rfl hcalm]
    decide
  obtain ⟨runs, result, hcourse, hresult⟩ :=
    Client.check_course (c := c) (p := provider) rfl rfl rfl depth_request
      (fun _ => mem_ruleIds_spec.2) ⟨{}, { link := () }⟩
  refine ⟨request_eq, depth_request, hlive, runs, result, hcourse, hresult, fun run hrun => ?_,
    fun hperm => ?_⟩
  · obtain ⟨_, _, hhandler⟩ := hcourse.exists_runs run hrun
    have hrule : run.rule ∈ request.parts.flatMap spec.chosen :=
      hcourse.map_rule_prefix.subset (List.mem_map_of_mem hrun)
    obtain ⟨part, -, hchosen⟩ := List.mem_flatMap.1 hrule
    exact (handler_runs (Spec.mem_of_mem_chosen hchosen) hhandler).2
  · have hlength := hperm.length_eq
    rw [List.length_map, length_ruleIds] at hlength
    have hfew := length_le_of_course hcourse hlive
    omega

end Crowd

end SchemaCheck
