import Mathlib.Data.List.Sort
import SchemaCheck.Proofs.Activity.Runs
import SchemaCheck.Proofs.Collector.Answers
import SchemaCheck.Proofs.Demo
import SchemaCheck.Proofs.Provider.Verdict

/-!
# What a check does

A check that runs rules in order has three parts, and each may end it: what comes before any rule
(`Provider.Readies`), the rules one after another (`RuleSpec.RunsInOrder`), and the response of the
collector. The request that came says which rules run, and the request that the hook makes of it is
what they run on (`Provider.Checks`, `Provider.check_checks`).
-/

namespace SchemaCheck

/-- From the first context the rules run on a request, one after another, and each hands in its
drafts; the first that fails is the last to run. Before each rule there is a look at the context:
when the call is over by then, and so in the context that is left, the rule does not run. -/
inductive RuleSpec.RunsInOrder (r : Request) :
    List RuleSpec → CallContext → List (String × Draft) → Result Unit → CallContext → Prop where
  | nil (c : CallContext) : RunsInOrder r [] c [] (.ok ()) c
  | next {rule : RuleSpec} {rules : List RuleSpec} {c d d' : CallContext} {drafts : List Draft}
      {log : List (String × Draft)} {result : Result Unit} :
      c.isLive → (rule.handler rule.id r).Runs c drafts (.ok ()) d →
        RunsInOrder r rules d log result d' →
        RunsInOrder r (rule :: rules) c (drafts.map (fun draft => (rule.id, draft)) ++ log) result
          d'
  | fails {rule : RuleSpec} {rules : List RuleSpec} {c d : CallContext} {drafts : List Draft}
      {e : Fault} : c.isLive → (rule.handler rule.id r).Runs c drafts (.error e) d →
        RunsInOrder r (rule :: rules) c (drafts.map fun draft => (rule.id, draft)) (.error e) d
  | late {rule : RuleSpec} {rules : List RuleSpec} {c : CallContext} {e : Fault} :
      c.check = .error e → RunsInOrder r (rule :: rules) c [] (.error e) c

namespace Provider

variable {p : Provider} {m : CheckMessage} {c : CallContext}

/-- What comes of a message before any rule runs: a fault, when it makes no request, when it names
rules that are not there, or when the hook fails; and else the request that the rules see. All but
the hook leave the context as it is. -/
inductive Readies (p : Provider) (m : CheckMessage) (c : CallContext) :
    Result Request → CallContext → Prop where
  | malformed {e : Fault} : Request.ofMessage m = .error e → Readies p m c (.error e) c
  | unknown {r : Request} {ids : List String} : Request.ofMessage m = .ok r → ids ≠ [] →
      ids.Pairwise (· < ·) → (∀ id, id ∈ ids ↔ id ∈ m.ruleIds ∧ id ∉ p.spec.ruleIds) →
        Readies p m c (.error (.unknownRules ids)) c
  | plain {r : Request} : Request.ofMessage m = .ok r → (∀ id ∈ m.ruleIds, id ∈ p.spec.ruleIds) →
      p.spec.before = none → Readies p m c (.ok r) c
  | hooked {r : Request} {hook : BeforeHook} {result : Result Request} {d : CallContext} :
      Request.ofMessage m = .ok r → (∀ id ∈ m.ruleIds, id ∈ p.spec.ruleIds) →
        p.spec.before = some hook → (hook r).Runs c [] result d → Readies p m c result d

/-- What is answered when rules handed in drafts about a request and none failed: what is wrong with
the drafts that are not sound, or, when all are, what they say, each under the identifier of its
rule and all in order. -/
inductive Answers (r : Request) (log : List (String × Draft)) : Result CheckReply → Prop where
  | refused {e : Fault} : Fault.join (Collector.remembered r log) = some e →
      Answers r log (.error e)
  | found {reply : CheckReply} : (∀ e ∈ log, e.2.Sound r e.1) →
      reply.findings.Perm (log.map fun e => e.2.entry e.1) →
      reply.findings.Pairwise (fun a b => a.compare b ≠ .gt) → Answers r log (.ok reply)

/-- What a check comes to, and the context that it leaves: the fault that is met before any rule
runs, the fault of the first rule that fails, or the answer to what the rules hand in. The rules are
those that the message asks for, as they are declared; they run on the request that was made ready,
which also decides what drafts are sound. -/
inductive Checks (p : Provider) (m : CheckMessage) (c : CallContext) :
    Result CheckReply → CallContext → Prop where
  | unready {e : Fault} {d : CallContext} : p.Readies m c (.error e) d → Checks p m c (.error e) d
  | fails {r : Request} {d d' : CallContext} {log : List (String × Draft)} {e : Fault} :
      p.Readies m c (.ok r) d →
        RuleSpec.RunsInOrder r (p.spec.chosen m.ruleIds) d log (.error e) d' →
        Checks p m c (.error e) d'
  | answered {r : Request} {d d' : CallContext} {log : List (String × Draft)}
      {result : Result CheckReply} : p.Readies m c (.ok r) d →
        RuleSpec.RunsInOrder r (p.spec.chosen m.ruleIds) d log (.ok ()) d' →
        Answers r log result → Checks p m c result d'

/-! ## The parts of a check -/

/-- The rules of a list run in order, and what they hand in goes to the collector. -/
theorem runInOrder_runs (r : Request) (rules : List RuleSpec) (c : CallContext) (s : Collector) :
    let run := Activity.runInOrder collect (rules.map (activity r)) c s
    ∃ log, RuleSpec.RunsInOrder r rules c log run.1 run.2.1 ∧ run.2.2 = s.addAll log := by
  induction rules generalizing c s with
  | nil => exact ⟨[], .nil c, rfl⟩
  | cons rule rules ih =>
    obtain ⟨drafts, hruns, hs⟩ :=
      Activity.run_runs (collect (activity r rule).1) (activity r rule).2 c s
    rw [← Activity.takeAll_map collect] at hs
    rw [List.map_cons, Activity.runInOrder]
    cases hrun : (activity r rule).2.run (collect (activity r rule).1) c s with
    | mk result next =>
      obtain ⟨d, s'⟩ := next
      rw [hrun] at hruns hs
      obtain rfl : s' = s.addAll (drafts.map fun draft => (rule.id, draft)) := hs
      cases result with
      | ok u =>
        rcases Activity.runs_check_bind hruns with ⟨hlive, hruns⟩ | ⟨e, -, -, he, -⟩
        · obtain ⟨log, hlog, hstate⟩ := ih d (s.addAll (drafts.map fun draft => (rule.id, draft)))
          refine ⟨_, .next hlive hruns hlog, hstate.trans ?_⟩
          exact (Activity.takeAll_append collect _ log s).symm
        · cases he
      | error e =>
        rcases Activity.runs_check_bind hruns with ⟨hlive, hruns⟩ | ⟨e', hcheck, rfl, he, rfl⟩
        · exact ⟨_, .fails hlive hruns, rfl⟩
        · cases he
          exact ⟨[], .late hcheck, rfl⟩

/-- The rules of the request that a message makes are those that the message names. -/
theorem ruleIds_of_ofMessage {r : Request} (h : Request.ofMessage m = .ok r) :
    r.ruleIds = Text.sortedUnique m.ruleIds := by
  obtain ⟨options, -, hbuild⟩ := exists_of_bind_eq_ok h
  exact (RequestBuilder.build_eq_ok_iff.1 hbuild).2.2.1

/-- The rules that a message names are all there, and are chosen, or those that are not there are
refused, in order. -/
theorem select_of_ofMessage {r : Request} (h : Request.ofMessage m = .ok r) :
    ((∀ id ∈ m.ruleIds, id ∈ p.spec.ruleIds) ∧ p.select r.ruleIds = .ok (p.spec.chosen m.ruleIds)) ∨
    ∃ ids, p.select r.ruleIds = .error (.unknownRules ids) ∧ ids ≠ [] ∧ ids.Pairwise (· < ·) ∧
      ∀ id, id ∈ ids ↔ id ∈ m.ruleIds ∧ id ∉ p.spec.ruleIds := by
  have hids := ruleIds_of_ofMessage h
  have hmem : ∀ id, id ∈ r.ruleIds.filter (fun id => !p.spec.ruleIds.contains id) ↔
      id ∈ m.ruleIds ∧ id ∉ p.spec.ruleIds := fun id => by
    simp [hids]
  rw [select_eq]
  cases hunknown : r.ruleIds.filter fun id => !p.spec.ruleIds.contains id with
  | nil =>
    rw [hunknown] at hmem
    refine .inl ⟨fun id hid => ?_, ?_⟩
    · by_contra hnot
      exact absurd ((hmem id).2 ⟨hid, hnot⟩) List.not_mem_nil
    · rw [hids, Spec.chosen_sortedUnique]
  | cons id ids =>
    rw [hunknown] at hmem
    refine .inr ⟨id :: ids, rfl, List.cons_ne_nil _ _, ?_, hmem⟩
    rw [← hunknown]
    exact r.ids_sorted.filter _

/-- What is made of a request before the rules run: the request as it is, or what the hook makes of
it. -/
theorem readies_prepare {r : Request} (h : Request.ofMessage m = .ok r)
    (hids : ∀ id ∈ m.ruleIds, id ∈ p.spec.ruleIds) (c : CallContext) :
    p.Readies m c ((p.prepare r).run c).1 ((p.prepare r).run c).2 := by
  unfold prepare
  cases hbefore : p.spec.before with
  | none => exact .plain h hids hbefore
  | some hook =>
    obtain ⟨items, hruns, -⟩ := Activity.run_runs (fun _ u => u) (hook r) c ()
    -- a hook has nothing to hand out
    obtain rfl : items = [] := List.eq_nil_iff_forall_not_mem.2 fun item => item.elim
    exact .hooked h hids hbefore hruns

/-- The response of a collector answers what it was handed. -/
theorem answers_finish (r : Request) (log : List (String × Draft)) :
    Answers r log (((Collector.ofRequest r).addAll log).finish.1.map Response.reply) := by
  cases hfinish : ((Collector.ofRequest r).addAll log).finish.1 with
  | error e => exact .refused (Collector.join_of_finish hfinish)
  | ok response =>
    have hsound := (Collector.firstAnswer r log).ok_iff.1 ⟨response, hfinish⟩
    have hentries : response.reply.findings = FindingEntry.sort (log.map fun e => e.2.entry e.1) :=
      Collector.entries_of_finish hfinish
    refine .found hsound ?_ ?_
    · rw [hentries]
      exact FindingEntry.sort_perm _
    · rw [hentries]
      exact (FindingEntry.pairwise_sort _).imp fun hle => bne_iff_ne.1 hle

/-- What is left of a check once a request is ready. -/
theorem checks_runRules {r : Request} {d : CallContext} (hp : p.execution = .inOrder)
    (h : p.Readies m c (.ok r) d) :
    let run := (p.runRules r (p.spec.chosen m.ruleIds)).run d
    p.Checks m c (run.1.map Response.reply) run.2 := by
  obtain ⟨log, hlog, hstate⟩ :=
    runInOrder_runs r (p.spec.chosen m.ruleIds) d (Collector.ofRequest r)
  simp only [runRules_run, runAll, hp]
  generalize Activity.runInOrder collect ((p.spec.chosen m.ruleIds).map (activity r)) d
    (Collector.ofRequest r) = run at hlog hstate ⊢
  obtain ⟨result, d', collector⟩ := run
  cases result with
  | error e => exact .fails h hlog
  | ok u =>
    obtain rfl : collector = (Collector.ofRequest r).addAll log := hstate
    exact .answered h hlog (answers_finish r log)

end Provider

/-! ## One meaning -/

/-- In one context rules run in one way. -/
theorem RuleSpec.RunsInOrder.unique {r : Request} {rules : List RuleSpec} {c d d' : CallContext}
    {log log' : List (String × Draft)} {result result' : Result Unit}
    (h : RunsInOrder r rules c log result d) (h' : RunsInOrder r rules c log' result' d') :
    log = log' ∧ result = result' ∧ d = d' := by
  induction h generalizing log' result' d' with
  | nil c =>
    cases h'
    exact ⟨rfl, rfl, rfl⟩
  | next hlive hruns _ ih =>
    cases h' with
    | next _ hruns' hrest =>
      obtain ⟨rfl, -, rfl⟩ := hruns.unique hruns'
      obtain ⟨rfl, rfl, rfl⟩ := ih hrest
      exact ⟨rfl, rfl, rfl⟩
    | fails _ hruns' => cases (hruns.unique hruns').2.1
    | late hlate => exact absurd hlive (CallContext.not_isLive_of_check hlate)
  | fails hlive hruns =>
    cases h' with
    | next _ hruns' _ => cases (hruns.unique hruns').2.1
    | fails _ hruns' =>
      obtain ⟨rfl, he, rfl⟩ := hruns.unique hruns'
      exact ⟨rfl, he, rfl⟩
    | late hlate => exact absurd hlive (CallContext.not_isLive_of_check hlate)
  | late hlate =>
    cases h' with
    | next hlive _ _ => exact absurd hlive (CallContext.not_isLive_of_check hlate)
    | fails hlive _ => exact absurd hlive (CallContext.not_isLive_of_check hlate)
    | late hlate' => exact ⟨rfl, by rw [← hlate, hlate'], rfl⟩

namespace Provider

variable {p : Provider} {m : CheckMessage} {c d d' : CallContext}

/-- Before the rules run, one thing comes of a message. -/
theorem Readies.unique {result result' : Result Request} (h : p.Readies m c result d)
    (h' : p.Readies m c result' d') : result = result' ∧ d = d' := by
  cases h with
  | malformed hm =>
    cases h' with
    | malformed hm' =>
      cases hm.symm.trans hm'
      exact ⟨rfl, rfl⟩
    | unknown hm' | plain hm' | hooked hm' => cases hm.symm.trans hm'
  -- one of the rules is not known, and so the message is not ready in another way
  | unknown hm hne hsorted hids =>
    obtain ⟨id, hid⟩ := List.exists_mem_of_ne_nil _ hne
    obtain ⟨hnamed, hunknown⟩ := (hids id).1 hid
    cases h' with
    | malformed hm' => cases hm.symm.trans hm'
    | unknown hm' _ hsorted' hids' =>
      obtain rfl := hsorted.eq_of_mem_iff hsorted' fun id => (hids id).trans (hids' id).symm
      exact ⟨rfl, rfl⟩
    | plain _ hknown | hooked _ hknown => exact absurd (hknown id hnamed) hunknown
  | plain hm hknown hbefore =>
    cases h' with
    | malformed hm' => cases hm.symm.trans hm'
    | unknown _ hne _ hids =>
      obtain ⟨id, hid⟩ := List.exists_mem_of_ne_nil _ hne
      exact absurd (hknown id ((hids id).1 hid).1) ((hids id).1 hid).2
    | plain hm' => exact ⟨hm.symm.trans hm', rfl⟩
    | hooked _ _ hbefore' => cases hbefore.symm.trans hbefore'
  | hooked hm hknown hbefore hruns =>
    cases h' with
    | malformed hm' => cases hm.symm.trans hm'
    | unknown _ hne _ hids =>
      obtain ⟨id, hid⟩ := List.exists_mem_of_ne_nil _ hne
      exact absurd (hknown id ((hids id).1 hid).1) ((hids id).1 hid).2
    | plain _ _ hbefore' => cases hbefore.symm.trans hbefore'
    | hooked hm' _ hbefore' hruns' =>
      cases hm.symm.trans hm'
      cases hbefore.symm.trans hbefore'
      exact (hruns.unique hruns').2

/-- The drafts of a run have one answer. -/
theorem Answers.unique {r : Request} {log : List (String × Draft)}
    {result result' : Result CheckReply} (h : Answers r log result) (h' : Answers r log result') :
    result = result' := by
  have hnone : (∀ e ∈ log, e.2.Sound r e.1) → Fault.join (Collector.remembered r log) = none := by
    intro hsound
    have hnil : Collector.remembered r log = [] :=
      List.filterMap_eq_nil_iff.2 fun e he => by rw [Draft.sound_iff.1 (hsound e he)]; rfl
    rw [hnil]
    rfl
  cases h with
  | refused hjoin =>
    cases h' with
    | refused hjoin' => cases hjoin.symm.trans hjoin'; rfl
    | found hsound => cases hjoin.symm.trans (hnone hsound)
  | @found reply hsound hperm hsorted =>
    cases h' with
    | refused hjoin => cases hjoin.symm.trans (hnone hsound)
    | @found reply' _ hperm' hsorted' =>
      have hfindings : reply.findings = reply'.findings :=
        FindingEntry.eq_of_perm_of_pairwise (hperm.trans hperm'.symm)
          (hsorted.imp bne_iff_ne.2) (hsorted'.imp bne_iff_ne.2)
      rw [show reply = reply' from congrArg CheckReply.mk hfindings]

/-- A check comes to one thing. -/
theorem Checks.unique {result result' : Result CheckReply} (h : p.Checks m c result d)
    (h' : p.Checks m c result' d') : result = result' ∧ d = d' := by
  cases h with
  | unready hready =>
    cases h' with
    | unready hready' =>
      obtain ⟨he, rfl⟩ := hready.unique hready'
      cases he
      exact ⟨rfl, rfl⟩
    | fails hready' | answered hready' => cases (hready.unique hready').1
  | fails hready hruns =>
    cases h' with
    | unready hready' => cases (hready.unique hready').1
    | fails hready' hruns' =>
      obtain ⟨hr, rfl⟩ := hready.unique hready'
      cases hr
      obtain ⟨-, he, rfl⟩ := hruns.unique hruns'
      cases he
      exact ⟨rfl, rfl⟩
    | answered hready' hruns' =>
      obtain ⟨hr, rfl⟩ := hready.unique hready'
      cases hr
      cases (hruns.unique hruns').2.1
  | answered hready hruns hanswer =>
    cases h' with
    | unready hready' => cases (hready.unique hready').1
    | fails hready' hruns' =>
      obtain ⟨hr, rfl⟩ := hready.unique hready'
      cases hr
      cases (hruns.unique hruns').2.1
    | answered hready' hruns' hanswer' =>
      obtain ⟨hr, rfl⟩ := hready.unique hready'
      cases hr
      obtain ⟨rfl, -, rfl⟩ := hruns.unique hruns'
      exact ⟨hanswer.unique hanswer', rfl⟩

/-- A check in a live context is what comes of the message before any rule runs, and then, when that
is a request, the response to it. -/
theorem exists_readies (m : CheckMessage) (hc : c.isLive) :
    ∃ result d, p.Readies m c result d ∧ (p.check m).run c = match result with
      | .error e => (.error e, d)
      | .ok r => ((p.runRules r (p.spec.chosen m.ruleIds)).run d).map
          (Except.map Response.reply) id := by
  have hcheck : c.check = .ok () := (CallContext.check_eq_ok_iff c).2 hc
  rw [check, Served.run_bind, Served.run_check, hcheck]
  simp only
  rw [Served.run_bind, Served.run_ofResult]
  cases hm : Request.ofMessage m with
  | error e => exact ⟨.error e, c, .malformed hm, rfl⟩
  | ok r =>
    simp only
    rw [Served.run_bind, Served.run_ofResult]
    rcases select_of_ofMessage (p := p) hm with
      ⟨hknown, hselect⟩ | ⟨ids, hselect, hne, hsorted, hids⟩
    · have hready := readies_prepare hm hknown c
      rw [hselect]
      simp only
      rw [Served.run_bind]
      cases hprepare : (p.prepare r).run c with
      | mk result d =>
        rw [hprepare] at hready
        refine ⟨result, d, hready, ?_⟩
        cases result with
        | error e => rfl
        | ok s =>
          simp only
          rw [Served.run_bind]
          cases (p.runRules s (p.spec.chosen m.ruleIds)).run d with
          | mk result d' => cases result <;> rfl
    · rw [hselect]
      exact ⟨_, c, .unknown hm hne hsorted hids, rfl⟩

/-- A check whose message makes a request that is ready is the response to that request. -/
theorem check_run_of_readies {r : Request} (h : p.Readies m c (.ok r) d) (hc : c.isLive) :
    (p.check m).run c = ((p.runRules r (p.spec.chosen m.ruleIds)).run d).map
      (Except.map Response.reply) id := by
  obtain ⟨result, d', hready, hrun⟩ := exists_readies (p := p) m hc
  obtain ⟨rfl, rfl⟩ := h.unique hready
  exact hrun

/-- A check that runs rules in order, in a live context, comes to something. -/
theorem checks_check (hp : p.execution = .inOrder) (m : CheckMessage) (hc : c.isLive) :
    p.Checks m c ((p.check m).run c).1 ((p.check m).run c).2 := by
  obtain ⟨result, d, hready, hrun⟩ := exists_readies (p := p) m hc
  rw [hrun]
  cases result with
  | error e => exact .unready hready
  | ok r => exact checks_runRules hp hready

/-- The meaning of a check that runs rules in order: in a live context, just one result and one
context are what the check comes to. -/
theorem check_run_eq_iff (hp : p.execution = .inOrder) (m : CheckMessage) (hc : c.isLive)
    (result : Result CheckReply) (d : CallContext) :
    (p.check m).run c = (result, d) ↔ p.Checks m c result d := by
  constructor
  · intro h
    have hchecks := checks_check hp m hc
    rwa [h] at hchecks
  · intro h
    obtain ⟨hresult, hd⟩ := (checks_check hp m hc).unique h
    exact Prod.ext hresult hd

/-- `check_run_eq_iff` for a file that declares a dialect, which the rule about files finds. -/
theorem check_run_eq_iff_demo :
    let m := Demo.request.message Demo.request.ruleIds
    let run := (Demo.fileProvider.check m).run {}
    Demo.fileProvider.execution = .inOrder ∧ ({} : CallContext).isLive ∧
      Demo.fileProvider.Checks m {} run.1 run.2 ∧
      run.1.toOption.map CheckReply.findings
        = some [{ ruleId := Demo.dialectRule.id
                  message := "Syntax should not be specified but was \"proto3\"."
                  location := some ⟨"a.proto", FileDescriptor.dialectPath⟩ }] :=
  ⟨rfl, by decide, (check_run_eq_iff rfl _ (by decide) _ _).1 rfl, by decide +kernel⟩

end Provider

end SchemaCheck
