import SchemaCheck.Proofs.Activity.Interleaving
import SchemaCheck.Proofs.Provider.Agreement
import SchemaCheck.Proofs.Provider.Checking
import SchemaCheck.Proofs.Spec.Registry

/-!
# Rules side by side

Rules that leave the context alone find side by side, to the turns of any schedule, what they find
one after another (`Provider.sideBySide_gives_inOrder`). Side by side all of them run, also those
after one that fails; their drafts reach the collector in some interleaving, which the response does
not show, because it is sorted.
-/

namespace SchemaCheck

namespace RuleSpec

variable {r : Request} {d : CallContext}

/-- The rule ends with a result when it runs on a request by itself, in a context that it leaves as
it is. -/
def EndsWith (r : Request) (d : CallContext) (rule : RuleSpec) (result : Result Unit) : Prop :=
  ∃ drafts, (rule.handler rule.id r).Runs d drafts result d

/-- The fault is that of the first rule of a list that fails; all before it succeed. -/
def FailsFirst (r : Request) (d : CallContext) (rules : List RuleSpec) (e : Fault) : Prop :=
  ∃ before rule after, rules = before ++ rule :: after ∧
    (∀ other ∈ before, other.EndsWith r d (.ok ())) ∧ rule.EndsWith r d (.error e)

/-- What the rules of a list hand in on a request, each by itself, in a context that they leave as
it is. -/
def HandIn (r : Request) (d : CallContext) (rules : List RuleSpec)
    (logs : List (List (String × Draft))) : Prop :=
  List.Forall₂ (fun rule log => ∃ drafts result, (rule.handler rule.id r).Runs d drafts result d ∧
    log = drafts.map fun draft => (rule.id, draft)) rules logs

end RuleSpec

namespace Provider

open Activity (RunsEach firstFault)

variable {p : Provider} {m : CheckMessage} {c d : CallContext} {r : Request}
  {rules : List RuleSpec} {logs : List (List (String × Draft))} {results : List (Result Unit)}

/-- The provider of the same spec that runs its rules in the given way. -/
def running (p : Provider) (execution : Execution) : Provider := { p with execution }

/-- What comes of a message before any rule runs does not depend on how rules run. -/
theorem Readies.running {result : Result Request} (h : p.Readies m c result d)
    (execution : Execution) : (p.running execution).Readies m c result d := by
  cases h with
  | malformed hm => exact .malformed hm
  | unknown hm hne hsorted hids => exact .unknown hm hne hsorted hids
  | plain hm hknown hbefore => exact .plain hm hknown hbefore
  | hooked hm hknown hbefore hruns => exact .hooked hm hknown hbefore hruns

/-- What comes before the rules lets the context evolve. -/
theorem Readies.evolves {result : Result Request} (h : p.Readies m c result d) : c.Evolves d := by
  cases h with
  | malformed => exact .refl c
  | unknown => exact .refl c
  | plain => exact .refl c
  | hooked _ _ _ hruns => exact hruns.evolves

/-- The rules that a message asks for leave the context alone when they run on the request that is
made ready for them. -/
def RunsCalmly (p : Provider) (m : CheckMessage) (c : CallContext) : Prop :=
  ∀ r d, p.Readies m c (.ok r) d → ∀ rule ∈ p.spec.chosen m.ruleIds,
    (rule.handler rule.id r).Calm

/-- What the collector is handed when the rules that a message asks for run on a request, to the
turns of a schedule. -/
def collected (p : Provider) (m : CheckMessage) (r : Request) (d : CallContext)
    (schedule : List Nat) : Collector :=
  ((p.running (.sideBySide schedule)).runAll r (p.spec.chosen m.ruleIds) d).2.2

/-! ## What each rule does by itself -/

/-- Rules that leave the context alone hand in something each and end. -/
theorem exists_runsEach_activities (h : ∀ rule ∈ rules, (rule.handler rule.id r).Calm)
    (d : CallContext) : ∃ logs results, RunsEach d (rules.map (activity r)) logs results := by
  refine Activity.exists_runsEach (fun a ha => ?_) d
  obtain ⟨rule, hrule, rfl⟩ := List.mem_map.1 ha
  exact Activity.calm_check.bind fun _ => h rule hrule

/-- In a live context the activities hand out what the rules hand in. -/
theorem handIn_of_runsEach (hlive : d.isLive)
    (h : RunsEach d (rules.map (activity r)) logs results) : RuleSpec.HandIn r d rules logs := by
  induction rules generalizing logs results with
  | nil =>
    cases h
    exact .nil
  | cons rule rules ih =>
    cases h with
    | cons hruns hrest =>
      rcases Activity.runs_check_bind hruns with ⟨-, hhandler⟩ | ⟨e, hover, -⟩
      · exact .cons ⟨_, _, hhandler, rfl⟩ (ih hrest)
      · exact absurd hlive (CallContext.not_isLive_of_check hover)

/-- In a live context the first fault of the activities is that of the first rule that fails. -/
theorem firstFault_of_failsFirst {e : Fault} (hlive : d.isLive)
    (h : RunsEach d (rules.map (activity r)) logs results)
    (hfails : RuleSpec.FailsFirst r d rules e) : firstFault results = .error e := by
  obtain ⟨before, rule, after, rfl, hbefore, drafts, hrule⟩ := hfails
  induction before generalizing logs results with
  | nil =>
    cases h with
    | cons hruns _ =>
      obtain ⟨-, rfl, -⟩ := hruns.unique (hrule.check_bind hlive)
      rfl
  | cons other before ih =>
    cases h with
    | cons hruns hrest =>
      obtain ⟨drafts', hother⟩ := hbefore other List.mem_cons_self
      obtain ⟨-, rfl, -⟩ := hruns.unique (hother.check_bind hlive)
      have hfirst := ih hrest fun other hmem => hbefore other (List.mem_cons_of_mem _ hmem)
      exact hfirst

/-- When some rule fails, one is the first to fail. -/
theorem exists_failsFirst (hcalm : ∀ rule ∈ rules, (rule.handler rule.id r).Calm) {rule : RuleSpec}
    {e : Fault} (hrule : rule ∈ rules) (hfails : rule.EndsWith r d (.error e)) :
    ∃ e, RuleSpec.FailsFirst r d rules e := by
  induction rules with
  | nil => cases hrule
  | cons other rules ih =>
    obtain ⟨drafts, result, hruns⟩ := (hcalm other List.mem_cons_self).exists_runs d
    cases result with
    | error e => exact ⟨e, [], other, rules, rfl, fun _ h => (nomatch h), drafts, hruns⟩
    | ok u =>
      rcases List.mem_cons.1 hrule with rfl | hrule
      · obtain ⟨drafts', hruns'⟩ := hfails
        cases (hruns.unique hruns').2.1
      · obtain ⟨e, before, first, after, rfl, hbefore, hfirst⟩ :=
          ih (fun rule h => hcalm rule (List.mem_cons_of_mem _ h)) hrule
        exact ⟨e, other :: before, first, after, rfl,
          List.forall_mem_cons.2 ⟨⟨drafts, hruns⟩, hbefore⟩, hfirst⟩

/-! ## Runs of all rules -/

/-- The reply of a check whose rules ended with results and handed in a log. -/
def answer (r : Request) (d : CallContext) (results : List (Result Unit))
    (log : List (String × Draft)) : Result CheckReply × CallContext :=
  (conclude (firstFault results, d, (Collector.ofRequest r).addAll log)).map
    (Except.map Response.reply) id

/-- When a rule failed, its fault is the answer, whatever was handed in. -/
theorem answer_of_error {e : Fault} (h : firstFault results = .error e)
    (log : List (String × Draft)) : answer r d results log = (.error e, d) := by
  rw [answer, h]
  rfl

/-- The answer leaves the context that the rules leave. -/
theorem answer_context (log : List (String × Draft)) : (answer r d results log).2 = d :=
  conclude_context _

/-- The reply does not show the order in which drafts came. -/
theorem answer_eq_ok_iff {log log' : List (String × Draft)} (h : log.Perm log')
    (reply : CheckReply) :
    (answer r d results log).1 = .ok reply ↔ (answer r d results log').1 = .ok reply := by
  unfold answer
  cases firstFault results with
  | error e => exact Iff.rfl
  | ok u =>
    have hagree : Agree False ((Collector.ofRequest r).addAll log).finish.1
        ((Collector.ofRequest r).addAll log').finish.1 := Collector.finish_agrees h nofun
    exact (hagree.bind fun response => .ok response.reply).eq_ok_iff reply

/-- Side by side, all that the rules hand in goes to the collector, in some interleaving. -/
theorem runAll_sideBySide (h : RunsEach d (rules.map (activity r)) logs results)
    (schedule : List Nat) : ∃ log, Interleaves logs log ∧
      (p.running (.sideBySide schedule)).runAll r rules d
        = (firstFault results, d, (Collector.ofRequest r).addAll log) :=
  h.runSideBySide collect schedule _

/-- Whatever interleaving there is, it is what reaches the collector for some schedule. -/
theorem exists_runAll_sideBySide (h : RunsEach d (rules.map (activity r)) logs results)
    {log : List (String × Draft)} (hlog : Interleaves logs log) : ∃ schedule,
      (p.running (.sideBySide schedule)).runAll r rules d
        = (firstFault results, d, (Collector.ofRequest r).addAll log) :=
  h.exists_schedule collect hlog _

section

variable (hready : p.Readies m c (.ok r) d) (hc : c.isLive)
  (hruns : RunsEach d ((p.spec.chosen m.ruleIds).map (activity r)) logs results)

include hready hc

/-- A check is answered by the run of its rules. -/
theorem check_run_of_runAll {execution : Execution} {log : List (String × Draft)}
    (hrun : (p.running execution).runAll r (p.spec.chosen m.ruleIds) d
      = (firstFault results, d, (Collector.ofRequest r).addAll log)) :
    ((p.running execution).check m).run c = answer r d results log := by
  rw [check_run_of_readies (hready.running execution) hc, runRules_run]
  exact congrArg (fun run => (conclude run).map (Except.map Response.reply) id) hrun

include hruns

/-- One after another, the rules run up to the first that fails. -/
theorem check_inOrder :
    ((p.running .inOrder).check m).run c = answer r d results logs.flatten := by
  obtain ⟨t, hrun, ht⟩ := hruns.runInOrder collect (Collector.ofRequest r)
  rw [check_run_of_readies (hready.running .inOrder) hc, runRules_run,
    show (p.running .inOrder).runAll r ((p.running .inOrder).spec.chosen m.ruleIds) d = _ from hrun]
  cases hfirst : firstFault results with
  | error e => exact (answer_of_error hfirst _).symm
  | ok u =>
    obtain rfl : t = (Collector.ofRequest r).addAll logs.flatten := ht hfirst
    rw [answer, hfirst]

end

/-- A check fails in a context that is not live, however rules run. -/
theorem check_of_not_live (hc : ¬ c.isLive) :
    ∃ e, ∀ execution, ((p.running execution).check m).run c = (.error e, c) := by
  cases hcheck : c.check with
  | ok u => exact absurd ((CallContext.check_eq_ok_iff c).1 hcheck) hc
  | error e =>
    refine ⟨e, fun execution => ?_⟩
    rw [check, Served.run_bind, Served.run_check, hcheck]

/-- A check in a live context fails before any rule runs, whatever the way to run rules, or its
message makes a request that is ready. -/
theorem check_unready_or_ready (p : Provider) (m : CheckMessage) (hc : c.isLive) :
    (∃ e d, ∀ execution, ((p.running execution).check m).run c = (.error e, d)) ∨
      ∃ r d, p.Readies m c (.ok r) d := by
  obtain ⟨result, d, hready, -⟩ := exists_readies (p := p) m hc
  cases result with
  | ok r => exact .inr ⟨r, d, hready⟩
  | error e =>
    refine .inl ⟨e, d, fun execution => ?_⟩
    obtain ⟨result, d', hready', hrun⟩ := exists_readies (p := p.running execution) m hc
    obtain ⟨rfl, rfl⟩ := (hready.running execution).unique hready'
    exact hrun

/-- Rules that leave the context alone have one outcome, but for the order in which faults of drafts
are reported. -/
theorem check_sideBySide_agrees (schedule : List Nat) (hcalm : p.RunsCalmly m c) :
    let inOrder := ((p.running .inOrder).check m).run c
    let sideBySide := ((p.running (.sideBySide schedule)).check m).run c
    sideBySide.2 = inOrder.2 ∧ ∀ reply, sideBySide.1 = .ok reply ↔ inOrder.1 = .ok reply := by
  by_cases hc : c.isLive
  · rcases check_unready_or_ready p m hc with ⟨e, d, hrun⟩ | ⟨r, d, hready⟩
    · rw [hrun, hrun]
      exact ⟨rfl, fun reply => Iff.rfl⟩
    · obtain ⟨logs, results, hruns⟩ := exists_runsEach_activities (hcalm r d hready) d
      obtain ⟨log, hlog, hrun⟩ := runAll_sideBySide hruns schedule
      rw [check_inOrder hready hc hruns, check_run_of_runAll hready hc hrun]
      exact ⟨(answer_context _).trans (answer_context _).symm, answer_eq_ok_iff hlog.perm⟩
  · obtain ⟨e, hrun⟩ := check_of_not_live (p := p) (m := m) hc
    rw [hrun, hrun]
    exact ⟨rfl, fun reply => Iff.rfl⟩

/-- For every schedule a check of rules that leave the context alone gives a response just when a
check that runs them in order does, and the same; it leaves the same context; and when a rule fails,
it fails with the fault of the first that does. All rules hand in their drafts meanwhile, in an
interleaving, and every interleaving is that of some schedule. -/
theorem sideBySide_gives_inOrder (p : Provider) (m : CheckMessage) (c : CallContext)
    (schedule : List Nat) (hcalm : p.RunsCalmly m c) :
    let inOrder := ((p.running .inOrder).check m).run c
    let sideBySide := ((p.running (.sideBySide schedule)).check m).run c
    (sideBySide.2 = inOrder.2 ∧ ∀ reply, sideBySide.1 = .ok reply ↔ inOrder.1 = .ok reply) ∧
    ∀ r d, p.Readies m c (.ok r) d → d.isLive →
      ((∃ rule ∈ p.spec.chosen m.ruleIds, ∃ e, rule.EndsWith r d (.error e)) →
        ∃ e, RuleSpec.FailsFirst r d (p.spec.chosen m.ruleIds) e ∧
          inOrder = (.error e, d) ∧ sideBySide = (.error e, d)) ∧
      ∃ logs, RuleSpec.HandIn r d (p.spec.chosen m.ruleIds) logs ∧
        (∃ log, Interleaves logs log ∧
          p.collected m r d schedule = (Collector.ofRequest r).addAll log) ∧
        ∀ log, Interleaves logs log →
          ∃ schedule, p.collected m r d schedule = (Collector.ofRequest r).addAll log := by
  refine ⟨check_sideBySide_agrees schedule hcalm, fun r d hready hlive => ?_⟩
  have hc : c.isLive := hready.evolves.isLive hlive
  obtain ⟨logs, results, hruns⟩ := exists_runsEach_activities (hcalm r d hready) d
  obtain ⟨log, hlog, hrun⟩ := runAll_sideBySide (p := p) hruns schedule
  refine ⟨?_, logs, handIn_of_runsEach hlive hruns, ⟨log, hlog, congrArg (·.2.2) hrun⟩,
    fun log hlog => ?_⟩
  · rintro ⟨rule, hrule, e, hfails⟩
    obtain ⟨e, hfirst⟩ := exists_failsFirst (hcalm r d hready) hrule hfails
    have hresult := firstFault_of_failsFirst hlive hruns hfirst
    rw [check_inOrder hready hc hruns, check_run_of_runAll hready hc hrun]
    exact ⟨e, hfirst, answer_of_error hresult _, answer_of_error hresult _⟩
  · obtain ⟨schedule, hrun⟩ := exists_runAll_sideBySide (p := p) hruns hlog
    exact ⟨schedule, congrArg (·.2.2) hrun⟩

end Provider

/-! ## Three rules -/

namespace Trio

/-- The identifiers of three rules. -/
def ids : List String := ["FIRST_RULE", "SECOND_RULE", "THIRD_RULE"]

/-- Three default rules that do what is given, whatever the request. -/
def spec (first second third : Activity Draft Unit) : Spec where
  rules := (ids.zip [first, second, third]).map fun e =>
    { id := e.1, purpose := "Does as it is told.", isDefault := true, type := .lint
      handler := fun _ _ => e.2 }

variable {first second third : Activity Draft Unit}

/-- The three rules make a valid spec, whatever they do. -/
theorem isValid_spec : (spec first second third).IsValid := by
  have hformed : ∀ id ∈ ids, Identifier.isWellFormed .rule id := by decide +kernel
  have hnodup : ids.Nodup := by decide
  have hpurpose : "Does as it is told." ≠ "" := by decide
  refine Spec.isValid_iff_registered.2 ⟨List.cons_ne_nil _ _,
    fun id hid => Identifier.isWellFormed_iff.1 (hformed id hid), nofun, hnodup, .nil,
    fun _ _ => List.not_mem_nil, fun e he => ?_, nofun, nofun⟩
  obtain ⟨rule, hrule, rfl⟩ := List.mem_map.1 he
  obtain ⟨_, -, rfl⟩ := List.mem_map.1 hrule
  exact ⟨hpurpose, .nil, nofun, fun h => absurd h.1 Bool.false_ne_true, fun _ => rfl, nofun⟩

/-- A provider of the three rules. -/
def provider (first second third : Activity Draft Unit) : Provider :=
  ⟨spec first second third, isValid_spec, .inOrder⟩

/-- A request about one file, for the default rules. -/
def request : Request := Demo.request.withIds [] .nil nofun

/-- The message of the request. -/
def message : CheckMessage := Demo.request.message []

/-- The message is taken as the request. -/
theorem readies : (provider first second third).Readies message {} (.ok request) {} :=
  .plain (Request.ofMessage_message .nil nofun) nofun rfl

/-- What holds of what is given holds of what the rules do. -/
theorem forall_chosen {P : Activity Draft Unit → Prop} (hfirst : P first) (hsecond : P second)
    (hthird : P third) (ids : List String) (r : Request) :
    ∀ rule ∈ (provider first second third).spec.chosen ids, P (rule.handler rule.id r) := by
  intro rule hrule
  obtain ⟨e, he, rfl⟩ := List.mem_map.1 (Spec.mem_of_mem_chosen hrule)
  have hmem : e.2 ∈ [first, second, third] := (List.of_mem_zip he).2
  simp only [List.mem_cons, List.not_mem_nil, or_false] at hmem
  rcases hmem with h | h | h <;> rw [h] <;> assumption

/-- The rules leave the context alone when what is given does. -/
theorem runsCalmly (hfirst : first.Calm) (hsecond : second.Calm) (hthird : third.Calm)
    (m : CheckMessage) (c : CallContext) : (provider first second third).RunsCalmly m c :=
  fun r _ _ => forall_chosen hfirst hsecond hthird m.ruleIds r

end Trio

/-- `Provider.sideBySide_gives_inOrder` for three rules, of which the last fails before the second
does: both ways end with the fault of the second. -/
theorem Provider.sideBySide_gives_inOrder_trio :
    let p := Trio.provider (Activity.give {}) (Activity.fail (.handler "second"))
      (Activity.fail (.handler "third"))
    p.RunsCalmly Trio.message {} ∧ ∃ e, RuleSpec.FailsFirst Trio.request {} p.spec.rules e ∧
      ((p.running .inOrder).check Trio.message).run {} = (.error e, {}) ∧
      ((p.running (.sideBySide [2, 2, 1, 1, 0])).check Trio.message).run {} = (.error e, {}) := by
  intro p
  have hcalm : p.RunsCalmly Trio.message {} :=
    Trio.runsCalmly (Activity.calm_give _) (Activity.calm_ofResult _) (Activity.calm_ofResult _) _ _
  have hmem : p.spec.rules[1] ∈ p.spec.chosen Trio.message.ruleIds := List.getElem_mem (n := 1) _
  have hfails : p.spec.rules[1].EndsWith Trio.request {} (.error (.handler "second")) :=
    ⟨[], .done _ _⟩
  exact ⟨hcalm, ((sideBySide_gives_inOrder p Trio.message {} [2, 2, 1, 1, 0] hcalm).2 _ _
    Trio.readies (by decide)).1 ⟨_, hmem, _, hfails⟩⟩

end SchemaCheck
