import SchemaCheck.Proofs.Client.Local
import SchemaCheck.Proofs.Provider.Checking

/-!
# The course of a check

Which rules a check by a client runs, on what requests, and how it ends (`Spec.Course`). The client
sends one message after another. For each the provider runs the rules that it names, up to the first
that fails (`RuleSpec.Course`), and refuses it when drafts are not sound; the first fault ends the
check. Every check of rules that are all declared takes such a course (`Client.check_course`), and
there is only one to take (`Spec.Course.unique`).
-/

namespace SchemaCheck

/-- One run of a rule: the request that it saw, what it handed in, and how it ended. -/
structure RuleRun where
  rule : RuleSpec
  request : Request
  drafts : List Draft
  result : Result Unit

/-- What was handed in, each draft under the identifier of its rule. -/
def RuleRun.log (runs : List RuleRun) : List (String × Draft) :=
  runs.flatMap fun run => run.drafts.map fun draft => (run.rule.id, draft)

/-- From the first context the rules run on a request, one after another, as in
`RuleSpec.RunsInOrder`: up to the first that fails, or until the call is over. -/
inductive RuleSpec.Course (r : Request) :
    List RuleSpec → CallContext → List RuleRun → Result Unit → CallContext → Prop where
  | nil (c : CallContext) : Course r [] c [] (.ok ()) c
  | next {rule : RuleSpec} {rules : List RuleSpec} {c d d' : CallContext} {drafts : List Draft}
      {runs : List RuleRun} {result : Result Unit} : c.isLive →
        (rule.handler rule.id r).Runs c drafts (.ok ()) d → Course r rules d runs result d' →
        Course r (rule :: rules) c (⟨rule, r, drafts, .ok ()⟩ :: runs) result d'
  | fails {rule : RuleSpec} {rules : List RuleSpec} {c d : CallContext} {drafts : List Draft}
      {e : Fault} : c.isLive → (rule.handler rule.id r).Runs c drafts (.error e) d →
        Course r (rule :: rules) c [⟨rule, r, drafts, .error e⟩] (.error e) d
  | late {rule : RuleSpec} {rules : List RuleSpec} {c : CallContext} {e : Fault} :
      c.check = .error e → Course r (rule :: rules) c [] (.error e) c

/-- From the first context a client checks a request in parts, each of which names rules. A part is
sent while the call is not over; its rules run, and when none of them fails and all that they hand
in is sound, the next part follows. -/
inductive Spec.Course (spec : Spec) (r : Request) :
    List (List String) → CallContext → List RuleRun → Result Unit → CallContext → Prop where
  | nil (c : CallContext) : Course spec r [] c [] (.ok ()) c
  | next {ids : List String} {parts : List (List String)} {c d d' : CallContext}
      {runs rest : List RuleRun} {result : Result Unit} (hs : ids.Pairwise (· < ·))
      (hv : ∀ id ∈ ids, Identifier.isWellFormed .rule id) : c.isLive →
        RuleSpec.Course (r.withIds ids hs hv) (spec.chosen ids) c runs (.ok ()) d →
        (∀ e ∈ RuleRun.log runs, e.2.Sound r e.1) → Course spec r parts d rest result d' →
        Course spec r (ids :: parts) c (runs ++ rest) result d'
  | fails {ids : List String} {parts : List (List String)} {c d : CallContext}
      {runs : List RuleRun} {e : Fault} (hs : ids.Pairwise (· < ·))
      (hv : ∀ id ∈ ids, Identifier.isWellFormed .rule id) : c.isLive →
        RuleSpec.Course (r.withIds ids hs hv) (spec.chosen ids) c runs (.error e) d →
        Course spec r (ids :: parts) c runs (.error e) d
  | refused {ids : List String} {parts : List (List String)} {c d : CallContext}
      {runs : List RuleRun} {e : Fault} (hs : ids.Pairwise (· < ·))
      (hv : ∀ id ∈ ids, Identifier.isWellFormed .rule id) : c.isLive →
        RuleSpec.Course (r.withIds ids hs hv) (spec.chosen ids) c runs (.ok ()) d →
        Fault.join (Collector.remembered r (RuleRun.log runs)) = some e →
        Course spec r (ids :: parts) c runs (.error e) d
  | ended {ids : List String} {parts : List (List String)} {c : CallContext} {e : Fault} :
      c.check = .error e → Course spec r (ids :: parts) c [] (.error e) c

namespace RuleRun

/-- No runs hand in anything. -/
@[simp] theorem log_nil : log [] = [] := rfl

/-- The drafts of the first run come before those of the others. -/
@[simp] theorem log_cons (run : RuleRun) (runs : List RuleRun) :
    log (run :: runs) = run.drafts.map (fun draft => (run.rule.id, draft)) ++ log runs := rfl

/-- The log of runs has what each of them hands in, under the identifier of its rule. -/
theorem mem_log {runs : List RuleRun} {e : String × Draft} :
    e ∈ log runs ↔ ∃ run ∈ runs, ∃ draft ∈ run.drafts, (run.rule.id, draft) = e := by
  simp only [log, List.mem_flatMap, List.mem_map]

end RuleRun

/-- Nothing is remembered of drafts that are all sound. -/
theorem Collector.remembered_eq_nil {r : Request} {log : List (String × Draft)}
    (h : ∀ e ∈ log, e.2.Sound r e.1) : remembered r log = [] :=
  List.filterMap_eq_nil_iff.2 fun e he => by rw [Draft.sound_iff.1 (h e he)]; rfl

/-! ## The rules of one part -/

namespace RuleSpec

variable {r : Request} {rules : List RuleSpec} {c d d' : CallContext} {runs runs' : List RuleRun}
  {result result' : Result Unit}

/-- Rules that run in order take a course in which they hand in what they do. -/
theorem RunsInOrder.exists_course {log : List (String × Draft)}
    (h : RunsInOrder r rules c log result d) :
    ∃ runs, Course r rules c runs result d ∧ RuleRun.log runs = log := by
  induction h with
  | nil c => exact ⟨[], .nil c, rfl⟩
  | next hlive hruns _ ih =>
    obtain ⟨runs, hcourse, rfl⟩ := ih
    exact ⟨_, .next hlive hruns hcourse, rfl⟩
  | fails hlive hruns =>
    refine ⟨_, .fails hlive hruns, ?_⟩
    rw [RuleRun.log_cons, RuleRun.log_nil, List.append_nil]
  | late hcheck => exact ⟨[], .late hcheck, rfl⟩

namespace Course

/-- The rules that run are the first of those that are to run. -/
theorem map_rule_prefix (h : Course r rules c runs result d) :
    (runs.map RuleRun.rule) <+: rules := by
  induction h with
  | nil | late => exact List.nil_prefix
  | next _ _ _ ih => exact List.cons_prefix_cons.2 ⟨rfl, ih⟩
  | fails => exact List.cons_prefix_cons.2 ⟨rfl, List.nil_prefix⟩

/-- When none fails all have run. -/
theorem map_rule_eq (h : Course r rules c runs (.ok ()) d) : runs.map RuleRun.rule = rules := by
  generalize hok : (.ok () : Result Unit) = result at h
  induction h with
  | nil => rfl
  | next _ _ _ ih => rw [List.map_cons, ih hok]
  | fails | late => cases hok

/-- All rules see the same request. -/
theorem request_eq (h : Course r rules c runs result d) : ∀ run ∈ runs, run.request = r := by
  induction h with
  | nil | late => exact fun _ h => absurd h List.not_mem_nil
  | next _ _ _ ih => exact List.forall_mem_cons.2 ⟨rfl, ih⟩
  | fails => exact List.forall_mem_cons.2 ⟨rfl, fun _ h => absurd h List.not_mem_nil⟩

/-- Every run is one of the code of its rule. -/
theorem exists_runs (h : Course r rules c runs result d) : ∀ run ∈ runs, ∃ c d,
    (run.rule.handler run.rule.id r).Runs c run.drafts run.result d := by
  induction h with
  | nil | late => exact fun _ h => absurd h List.not_mem_nil
  | next _ hruns _ ih => exact List.forall_mem_cons.2 ⟨⟨_, _, hruns⟩, ih⟩
  | fails _ hruns =>
    exact List.forall_mem_cons.2 ⟨⟨_, _, hruns⟩, fun _ h => absurd h List.not_mem_nil⟩

/-- A fault is that of a rule, unless the call is over. -/
theorem fault_cases {e : Fault} (h : Course r rules c runs (.error e) d) :
    (∃ run ∈ runs, run.result = .error e) ∨ d.check = .error e := by
  generalize hfault : (.error e : Result Unit) = result at h
  induction h with
  | nil => cases hfault
  | next _ _ _ ih =>
    rcases ih hfault with ⟨run, hrun, he⟩ | hended
    · exact .inl ⟨run, List.mem_cons_of_mem _ hrun, he⟩
    · exact .inr hended
  | fails =>
    cases hfault
    exact .inl ⟨_, List.mem_cons_self, rfl⟩
  | late hcheck =>
    cases hfault
    exact .inr hcheck

/-- In one context rules take one course. -/
theorem unique (h : Course r rules c runs result d) (h' : Course r rules c runs' result' d') :
    runs = runs' ∧ result = result' ∧ d = d' := by
  induction h generalizing runs' result' d' with
  | nil c =>
    cases h'
    exact ⟨rfl, rfl, rfl⟩
  | next hlive hruns _ ih =>
    cases h' with
    | next _ hruns' hrest =>
      obtain ⟨rfl, -, rfl⟩ := hruns.unique hruns'
      obtain ⟨rfl, rfl, rfl⟩ := ih hrest
      exact ⟨rfl, rfl, rfl⟩
    | fails _ hruns' => cases (hruns.unique hruns').2.1
    | late hlate => exact absurd hlive (CallContext.not_isLive_of_check hlate)
  | fails hlive hruns =>
    cases h' with
    | next _ hruns' _ => cases (hruns.unique hruns').2.1
    | fails _ hruns' =>
      obtain ⟨rfl, he, rfl⟩ := hruns.unique hruns'
      cases he
      exact ⟨rfl, rfl, rfl⟩
    | late hlate => exact absurd hlive (CallContext.not_isLive_of_check hlate)
  | late hlate =>
    cases h' with
    | next hlive _ _ => exact absurd hlive (CallContext.not_isLive_of_check hlate)
    | fails hlive _ => exact absurd hlive (CallContext.not_isLive_of_check hlate)
    | late hlate' => exact ⟨rfl, by rw [← hlate, hlate'], rfl⟩

end Course

end RuleSpec

/-! ## All parts -/

namespace Spec.Course

variable {spec : Spec} {r : Request} {parts : List (List String)} {c d d' : CallContext}
  {runs runs' : List RuleRun} {result result' : Result Unit}

/-- In one context a check takes one course. -/
theorem unique (h : spec.Course r parts c runs result d)
    (h' : spec.Course r parts c runs' result' d') : runs = runs' ∧ result = result' ∧ d = d' := by
  induction h generalizing runs' result' d' with
  | nil c =>
    cases h'
    exact ⟨rfl, rfl, rfl⟩
  | next hs hv hlive hruns hsound _ ih =>
    cases h' with
    | next hs' hv' _ hruns' _ hrest =>
      obtain ⟨rfl, -, rfl⟩ := hruns.unique hruns'
      obtain ⟨rfl, rfl, rfl⟩ := ih hrest
      exact ⟨rfl, rfl, rfl⟩
    | fails hs' hv' _ hruns' => cases (hruns.unique hruns').2.1
    | refused hs' hv' _ hruns' hjoin =>
      obtain ⟨rfl, -, -⟩ := hruns.unique hruns'
      rw [Collector.remembered_eq_nil hsound] at hjoin
      cases hjoin
    | ended hended => exact absurd hlive (CallContext.not_isLive_of_check hended)
  | fails hs hv hlive hruns =>
    cases h' with
    | next hs' hv' _ hruns' _ _ => cases (hruns.unique hruns').2.1
    | fails hs' hv' _ hruns' => exact hruns.unique hruns'
    | refused hs' hv' _ hruns' _ => cases (hruns.unique hruns').2.1
    | ended hended => exact absurd hlive (CallContext.not_isLive_of_check hended)
  | refused hs hv hlive hruns hjoin =>
    cases h' with
    | next hs' hv' _ hruns' hsound _ =>
      obtain ⟨rfl, -, -⟩ := hruns.unique hruns'
      rw [Collector.remembered_eq_nil hsound] at hjoin
      cases hjoin
    | fails hs' hv' _ hruns' => cases (hruns.unique hruns').2.1
    | refused hs' hv' _ hruns' hjoin' =>
      obtain ⟨rfl, -, rfl⟩ := hruns.unique hruns'
      cases hjoin.symm.trans hjoin'
      exact ⟨rfl, rfl, rfl⟩
    | ended hended => exact absurd hlive (CallContext.not_isLive_of_check hended)
  | ended hended =>
    cases h' with
    | next _ _ hlive _ _ _ => exact absurd hlive (CallContext.not_isLive_of_check hended)
    | fails _ _ hlive _ => exact absurd hlive (CallContext.not_isLive_of_check hended)
    | refused _ _ hlive _ _ => exact absurd hlive (CallContext.not_isLive_of_check hended)
    | ended hended' => exact ⟨rfl, by rw [← hended, hended'], rfl⟩

/-- The rules that run are the first of those that the parts choose. -/
theorem map_rule_prefix (h : spec.Course r parts c runs result d) :
    (runs.map RuleRun.rule) <+: parts.flatMap spec.chosen := by
  induction h with
  | nil | ended => exact List.nil_prefix
  | next hs hv _ hruns _ _ ih =>
    rw [List.map_append, List.flatMap_cons, hruns.map_rule_eq]
    exact (List.prefix_append_right_inj _).2 ih
  | fails hs hv _ hruns =>
    rw [List.flatMap_cons]
    exact hruns.map_rule_prefix.trans (List.prefix_append _ _)
  | refused hs hv _ hruns _ =>
    rw [List.flatMap_cons]
    exact hruns.map_rule_prefix.trans (List.prefix_append _ _)

/-- All rules see the files and options of the request. -/
theorem sameInputs (h : spec.Course r parts c runs result d) :
    ∀ run ∈ runs, run.request.SameInputs r := by
  have hpart : ∀ {ids c runs result d} (hs : ids.Pairwise (· < ·))
      (hv : ∀ id ∈ ids, Identifier.isWellFormed .rule id),
      RuleSpec.Course (r.withIds ids hs hv) (spec.chosen ids) c runs result d →
        ∀ run ∈ runs, run.request.SameInputs r := by
    intro ids c runs result d hs hv hruns run hrun
    rw [hruns.request_eq run hrun]
    exact ⟨rfl, rfl, rfl⟩
  induction h with
  | nil | ended => exact fun _ h => absurd h List.not_mem_nil
  | next hs hv _ hruns _ _ ih =>
    exact fun run hrun => (List.mem_append.1 hrun).elim (hpart hs hv hruns run) (ih run)
  | fails hs hv _ hruns => exact hpart hs hv hruns
  | refused hs hv _ hruns _ => exact hpart hs hv hruns

/-- Every run is one of the code of its rule. -/
theorem exists_runs (h : spec.Course r parts c runs result d) : ∀ run ∈ runs, ∃ c d,
    (run.rule.handler run.rule.id run.request).Runs c run.drafts run.result d := by
  have hpart : ∀ {ids c runs result d} (hs : ids.Pairwise (· < ·))
      (hv : ∀ id ∈ ids, Identifier.isWellFormed .rule id),
      RuleSpec.Course (r.withIds ids hs hv) (spec.chosen ids) c runs result d →
        ∀ run ∈ runs, ∃ c d,
          (run.rule.handler run.rule.id run.request).Runs c run.drafts run.result d := by
    intro ids c runs result d hs hv hruns run hrun
    rw [hruns.request_eq run hrun]
    exact hruns.exists_runs run hrun
  induction h with
  | nil | ended => exact fun _ h => absurd h List.not_mem_nil
  | next hs hv _ hruns _ _ ih =>
    exact fun run hrun => (List.mem_append.1 hrun).elim (hpart hs hv hruns run) (ih run)
  | fails hs hv _ hruns => exact hpart hs hv hruns
  | refused hs hv _ hruns _ => exact hpart hs hv hruns

/-- A fault is that of a rule, or says what is wrong with what the last rules handed in, unless the
call is over. -/
theorem fault_cases {e : Fault} (h : spec.Course r parts c runs (.error e) d) :
    (∃ run ∈ runs, run.result = .error e) ∨
    (∃ last, last <:+ runs ∧ Fault.join (Collector.remembered r (RuleRun.log last)) = some e) ∨
      d.check = .error e := by
  generalize hfault : (.error e : Result Unit) = result at h
  induction h with
  | nil => cases hfault
  | @next _ _ _ _ _ runs rest _ hs hv _ _ _ _ ih =>
    rcases ih hfault with ⟨run, hrun, he⟩ | ⟨last, hlast, hjoin⟩ | hended
    · exact .inl ⟨run, List.mem_append_right _ hrun, he⟩
    · exact .inr (.inl ⟨last, hlast.trans (List.suffix_append runs rest), hjoin⟩)
    · exact .inr (.inr hended)
  | fails hs hv _ hruns =>
    cases hfault
    exact hruns.fault_cases.imp_right .inr
  | refused hs hv _ _ hjoin =>
    cases hfault
    exact .inr (.inl ⟨_, List.suffix_refl _, hjoin⟩)
  | ended hended =>
    cases hfault
    exact .inr (.inr hended)

/-- When no rule fails, and what the rules of all parts but the last hand in is sound, all rules of
all parts run, unless the call is over. -/
theorem map_rule_eq (h : spec.Course r parts c runs result d) (hparts : ∀ ids ∈ parts, ids ≠ [])
    (hlive : d.isLive) (hok : ∀ run ∈ runs, run.result = .ok ())
    (hsound : ∀ ids ∈ parts.dropLast, ∀ run ∈ runs, run.rule.id ∈ ids →
      ∀ draft ∈ run.drafts, draft.Sound r run.rule.id) :
    runs.map RuleRun.rule = parts.flatMap spec.chosen := by
  induction h with
  | nil => rfl
  | ended hended => exact absurd hlive (CallContext.not_isLive_of_check hended)
  | fails hs hv _ hruns =>
    rcases hruns.fault_cases with ⟨run, hrun, he⟩ | hended
    · cases he.symm.trans (hok run hrun)
    · exact absurd hlive (CallContext.not_isLive_of_check hended)
  | @next ids parts _ _ _ _ _ _ hs hv _ hruns _ _ ih =>
    rw [List.map_append, List.flatMap_cons, hruns.map_rule_eq]
    congr 1
    refine ih (fun ids h => hparts ids (List.mem_cons_of_mem _ h)) hlive
      (fun run hrun => hok run (List.mem_append_right _ hrun)) fun others hothers run hrun => ?_
    refine hsound others ?_ run (List.mem_append_right _ hrun)
    rw [List.dropLast_cons_of_ne_nil (List.ne_nil_of_mem (List.dropLast_subset _ hothers))]
    exact List.mem_cons_of_mem _ hothers
  | @refused ids parts _ _ runs _ hs hv _ hruns hjoin =>
    cases parts with
    | nil => rw [hruns.map_rule_eq, List.flatMap_cons, List.flatMap_nil, List.append_nil]
    | cons other parts =>
      -- a part before the last is not refused, since what it hands in is sound
      have hids : ids ∈ (ids :: other :: parts).dropLast := by
        rw [List.dropLast_cons_of_ne_nil (List.cons_ne_nil _ _)]
        exact List.mem_cons_self
      have hnamed : ∀ run ∈ runs, run.rule.id ∈ ids := by
        intro run hrun
        have hchosen : run.rule ∈ spec.chosen ids :=
          hruns.map_rule_prefix.subset (List.mem_map_of_mem hrun)
        have htest := (List.mem_filter.1 hchosen).2
        simpa [List.isEmpty_eq_false_iff.2 (hparts ids List.mem_cons_self)] using htest
      have hall : ∀ e ∈ RuleRun.log runs, e.2.Sound r e.1 := by
        intro e he
        obtain ⟨run, hrun, draft, hdraft, rfl⟩ := RuleRun.mem_log.1 he
        exact hsound ids hids run hrun (hnamed run hrun) draft hdraft
      rw [Collector.remembered_eq_nil hall] at hjoin
      cases hjoin

end Spec.Course

/-! ## Checks take their course -/

/-- One message that names declared rules: they take their course, and when none fails, what they
hand in is answered. -/
theorem Provider.message_course {p : Provider} (hp : p.execution = .inOrder)
    (hbefore : p.spec.before = none) {r : Request} {ids : List String}
    (hs : ids.Pairwise (· < ·)) (hv : ∀ id ∈ ids, Identifier.isWellFormed .rule id)
    (hknown : ∀ id ∈ ids, id ∈ p.spec.ruleIds) {c d : CallContext} (hc : c.isLive)
    {result : Result CheckReply} (hrun : (p.check (r.message ids)).run c = (result, d)) :
    ∃ runs,
      (∃ e, RuleSpec.Course (r.withIds ids hs hv) (p.spec.chosen ids) c runs (.error e) d ∧
        result = .error e) ∨
      RuleSpec.Course (r.withIds ids hs hv) (p.spec.chosen ids) c runs (.ok ()) d ∧
        Answers (r.withIds ids hs hv) (RuleRun.log runs) result := by
  have hmessage : Request.ofMessage (r.message ids) = .ok (r.withIds ids hs hv) :=
    Request.ofMessage_message hs hv
  have hready : ∀ {result d}, p.Readies (r.message ids) c result d →
      result = .ok (r.withIds ids hs hv) ∧ d = c := fun h =>
    h.unique (.plain hmessage hknown hbefore)
  have hchecks := checks_check hp (r.message ids) hc
  rw [hrun] at hchecks
  cases hchecks with
  | unready h => cases (hready h).1
  | fails h hruns =>
    obtain ⟨heq, rfl⟩ := hready h
    cases heq
    obtain ⟨runs, hcourse, rfl⟩ := hruns.exists_course
    exact ⟨runs, .inl ⟨_, hcourse, rfl⟩⟩
  | answered h hruns hanswer =>
    obtain ⟨heq, rfl⟩ := hready h
    cases heq
    obtain ⟨runs, hcourse, rfl⟩ := hruns.exists_course
    exact ⟨runs, .inr ⟨hcourse, hanswer⟩⟩

namespace Client

variable {τ : Type} {c : Client τ} {p : Provider} {r : Request}

/-- Sending some of the messages of a request takes a course, in which the client collects findings
that the request admits. The induction is on the parts; each is sent in the session that those
before it leave. -/
theorem sendAll_course (hc : c.transport = Transport.ofProvider p) (hp : p.execution = .inOrder)
    (hbefore : p.spec.before = none)
    (hdepth : (CheckMessage.codec.encode (r.message r.ruleIds)).depth ≤ 127)
    (parts : List (List String)) (hparts : ∀ ids ∈ parts, ids ∈ r.parts)
    (hknown : ∀ ids ∈ parts, ∀ id ∈ ids, id ∈ p.spec.ruleIds) (collector : Collector)
    (s : Session (ClientState τ)) :
    let run := (c.sendAll collector (parts.map r.message)).runIn s
    ∃ runs result, p.spec.Course r parts s.context runs result run.2.context ∧
      ((∃ sent, run.1 = .ok (collectEntries collector sent) ∧ result = .ok () ∧
          ∀ e ∈ sent, r.Admits (e.ruleId, Draft.ofEntry e)) ∨
        ∃ e, run.1 = .error (.fault e) ∧ result = .error e) := by
  induction parts generalizing collector s with
  | nil => exact ⟨[], .ok (), .nil _, .inl ⟨[], rfl, rfl, fun _ h => absurd h List.not_mem_nil⟩⟩
  | cons ids parts ih =>
    cases hcheck : s.context.check with
    -- the call is over before the message is sent
    | error e =>
      have hask : (c.sendAll collector ((ids :: parts).map r.message)).runIn s
          = (.error (.fault e), s) := by
        rw [List.map_cons, sendAll, Call.runIn_bind, ask_of_not_live hcheck]
      simp only [hask]
      exact ⟨[], .error e, .ended hcheck, .inr ⟨e, rfl, rfl⟩⟩
    | ok u =>
      have hlive : s.context.isLive := (CallContext.check_eq_ok_iff _).1 hcheck
      have hids : ids ∈ r.parts := hparts ids List.mem_cons_self
      have hs := Request.sorted_of_mem_parts hids
      have hv := Request.valid_of_mem_parts hids
      cases hrun : (p.check (r.message ids)).run s.context with
      | mk answer d =>
        obtain ⟨runs, hcourse⟩ :=
          p.message_course hp hbefore hs hv (hknown ids List.mem_cons_self) hlive hrun
        rw [List.map_cons, sendAll, Call.runIn_bind,
          ask_check hc (Request.ofBytes_toBytes_message hdepth ids) hlive, hrun]
        rcases hcourse with ⟨e, hcourse, rfl⟩ | ⟨hcourse, hanswer⟩
        · exact ⟨runs, .error e, .fails hs hv hlive hcourse, .inr ⟨e, rfl, rfl⟩⟩
        · cases hanswer with
          | @refused e hjoin =>
            exact ⟨runs, .error e, .refused hs hv hlive hcourse hjoin, .inr ⟨e, rfl, rfl⟩⟩
          | @found reply hsound hperm _ =>
            -- what is sound on the message is sound on the request: both are about the same files
            have hsound' : ∀ e ∈ RuleRun.log runs, e.2.Sound r e.1 := fun e he =>
              ⟨(hsound e he).rule, (hsound e he).current, (hsound e he).against⟩
            obtain ⟨rest, result, hrest, hending⟩ := ih
              (fun ids h => hparts ids (List.mem_cons_of_mem _ h))
              (fun ids h => hknown ids (List.mem_cons_of_mem _ h))
              (collectEntries collector reply.findings) ⟨d, s.state⟩
            refine ⟨runs ++ rest, result, .next hs hv hlive hcourse hsound' hrest, ?_⟩
            rcases hending with ⟨sent, hsent, rfl, hadmits⟩ | ⟨e, he, rfl⟩
            · refine .inl ⟨reply.findings ++ sent, ?_, rfl, List.forall_mem_append.2 ⟨?_, hadmits⟩⟩
              · rw [collectEntries_append]
                exact hsent
              · intro entry hentry
                obtain ⟨e, he, rfl⟩ := List.mem_map.1 (hperm.mem_iff.1 hentry)
                exact (Request.admits_iff_sound.2 (hsound' e he)).ofEntry
            · exact .inr ⟨e, he, rfl⟩

/-- A check of declared rules takes its course, and ends as this does: with a response, or with the
fault. -/
theorem check_course (hc : c.transport = Transport.ofProvider p) (hp : p.execution = .inOrder)
    (hbefore : p.spec.before = none)
    (hdepth : (CheckMessage.codec.encode (r.message r.ruleIds)).depth ≤ 127)
    (hknown : ∀ id ∈ r.ruleIds, id ∈ p.spec.ruleIds) (s : Session (ClientState τ)) :
    let run := (c.check r).runIn s
    ∃ runs result, p.spec.Course r r.parts s.context runs result run.2.context ∧
      run.1.map (fun _ => ()) = Call.lift result := by
  have hparts : ∀ ids ∈ r.parts, ∀ id ∈ ids, id ∈ p.spec.ruleIds := fun ids h id hid =>
    hknown id ((Request.sublist_of_mem_parts h).subset hid)
  obtain ⟨runs, result, hcourse, hending⟩ :=
    sendAll_course hc hp hbefore hdepth r.parts (fun _ h => h) hparts (Collector.ofRequest r) s
  rw [check, Call.runIn_bind, Request.messages_eq_map]
  generalize (c.sendAll (Collector.ofRequest r) (r.parts.map r.message)).runIn s = sending
    at hcourse hending ⊢
  obtain ⟨sent, t⟩ := sending
  rcases hending with ⟨entries, rfl, rfl, hadmits⟩ | ⟨e, rfl, rfl⟩
  · obtain ⟨response, hfinish, -, -⟩ := finish_collectEntries hadmits
    refine ⟨runs, .ok (), hcourse, ?_⟩
    show (Call.lift (collectEntries (Collector.ofRequest r) entries).finish.1).map _ = _
    rw [hfinish]
    rfl
  · exact ⟨runs, .error e, hcourse, rfl⟩

end Client

end SchemaCheck
