import SchemaCheck.Proofs.Provider.SideBySide

/-!
# Faults in the order of arrival

Findings are sorted, but what is wrong with drafts is reported in the order in which the drafts
reach the collector. Side by side that is an interleaving of what is wrong with the drafts of each
rule, and every interleaving is reported for some schedule. So there is one report for all schedules
just when faults of different rules cannot be told apart (`Provider.sideBySide_eq_inOrder_iff`), and
for two rules that make different mistakes there is not (`Trio.sideBySide_ne_inOrder`).
-/

namespace SchemaCheck

namespace Fault

/-- The fault that a result is, if it is one. -/
def of? {α : Type} : Result α → Option Fault
  | .ok _ => none
  | .error e => some e

/-- A result has a fault when it is this fault. -/
theorem of?_eq_some_iff {α : Type} {x : Result α} {e : Fault} : of? x = some e ↔ x = .error e := by
  cases x <;> simp [of?]

/-- Results with the same fault, if any, and the same value, if any, are the same. -/
theorem eq_of_of?_eq {α : Type} {x y : Result α} (hfault : of? x = of? y)
    (hvalue : ∀ a, x = .ok a ↔ y = .ok a) : x = y := by
  cases x with
  | ok a => exact ((hvalue a).1 rfl).symm
  | error e => exact (of?_eq_some_iff.1 hfault.symm).symm

/-- Joined faults tell which faults were joined, if it is known how many. -/
theorem eq_of_join_eq {es fs : List Fault} (hlength : es.length = fs.length)
    (h : Fault.join es = Fault.join fs) : es = fs := by
  match es, fs with
  | [], [] => rfl
  | [e], [f] => exact congrArg (fun e => [e]) (Option.some.inj h)
  | _ :: _ :: _, _ :: _ :: _ => exact Fault.joined.inj (Option.some.inj h)

end Fault

/-- A collector answers what it remembers, if anything, and else the findings that it accepted. -/
theorem Collector.finish_addAll (r : Request) (log : List (String × Draft)) :
    ((ofRequest r).addAll log).finish.1 = match Fault.join (remembered r log) with
      | some e => .error e
      | none => .ok (Response.ofFindings ((ofRequest r).accepted log)) := by
  rw [addAll_eq _ _ rfl, refused_eq_remembered]
  simp only [ofRequest, finish, Bool.false_eq_true, if_false, List.nil_append]
  cases Fault.join (remembered r log) <;> rfl

/-- What is wrong with the drafts that each rule of a list hands in, when none of them fails and all
leave the context as it is. -/
def RuleSpec.Misuses (r : Request) (d : CallContext) (rules : List RuleSpec)
    (faults : List (List Fault)) : Prop :=
  List.Forall₂ (fun rule es => ∃ drafts, (rule.handler rule.id r).Runs d drafts (.ok ()) d ∧
    es = Collector.remembered r (drafts.map fun draft => (rule.id, draft))) rules faults

namespace Provider

open Activity (RunsEach firstFault)

variable {p : Provider} {m : CheckMessage} {c d : CallContext} {r : Request}
  {rules : List RuleSpec} {results : List (Result Unit)} {log log' : List (String × Draft)}

/-- Rules that do not fail hand in what the faults come of. -/
theorem exists_runsEach_of_misuses {faults : List (List Fault)} (hlive : d.isLive)
    (h : RuleSpec.Misuses r d rules faults) :
    ∃ logs results, RunsEach d (rules.map (activity r)) logs results ∧
      firstFault results = .ok () ∧ logs.map (Collector.remembered r) = faults := by
  induction h with
  | nil => exact ⟨[], [], .nil, rfl, rfl⟩
  | cons hrule _ ih =>
    obtain ⟨drafts, hruns, rfl⟩ := hrule
    obtain ⟨logs, results, hrest, hok, rfl⟩ := ih
    exact ⟨_, _, .cons (hruns.check_bind hlive) hrest, hok, rfl⟩

section

variable (hok : firstFault results = .ok ())

include hok

/-- The fault of an answer is what the collector remembers. -/
theorem fault?_answer : Fault.of? (answer r d results log).1
    = Fault.join (Collector.remembered r log) := by
  rw [answer, hok, conclude, Collector.finish_addAll]
  cases Fault.join (Collector.remembered r log) <;> rfl

/-- When something is remembered, it is the answer. -/
theorem answer_of_join {e : Fault} (h : Fault.join (Collector.remembered r log) = some e) :
    answer r d results log = (.error e, d) :=
  Prod.ext (Fault.of?_eq_some_iff.1 ((fault?_answer hok).trans h)) (answer_context log)

/-- Of the order in which drafts came the reply shows the order of what is wrong with them. -/
theorem answer_eq_iff (h : log.Perm log') :
    answer r d results log = answer r d results log' ↔
      Collector.remembered r log = Collector.remembered r log' := by
  have hlength := (h.filterMap fun e => (e.2.objections r e.1).head?).length_eq
  constructor
  · intro heq
    refine Fault.eq_of_join_eq hlength ?_
    rw [← fault?_answer (d := d) hok, heq, fault?_answer hok]
  · intro heq
    have hfault : Fault.of? (answer r d results log).1 = Fault.of? (answer r d results log').1 := by
      rw [fault?_answer hok, fault?_answer hok, heq]
    exact Prod.ext (Fault.eq_of_of?_eq hfault (answer_eq_ok_iff h))
      ((answer_context log).trans (answer_context log').symm)

end

/-- What is reported of rules side by side, none of which fails: what is wrong with the drafts of
all of them, interleaved. It is what is reported of the rules in order, whatever the schedule, just
when faults of different rules are the same. -/
theorem sideBySide_eq_inOrder_iff {faults : List (List Fault)} (hready : p.Readies m c (.ok r) d)
    (hlive : d.isLive) (hmisuses : RuleSpec.Misuses r d (p.spec.chosen m.ruleIds) faults) :
    let inOrder := ((p.running .inOrder).check m).run c
    let sideBySide := fun schedule => ((p.running (.sideBySide schedule)).check m).run c
    (∀ schedule, ∃ es, Interleaves faults es ∧
      ∀ e, Fault.join es = some e → sideBySide schedule = (.error e, d)) ∧
    (∀ e, Fault.join faults.flatten = some e → inOrder = (.error e, d)) ∧
    ((∀ schedule, sideBySide schedule = inOrder) ↔
      faults.Pairwise fun es fs => ∀ e ∈ es, ∀ f ∈ fs, e = f) := by
  have hc : c.isLive := hready.evolves.isLive hlive
  obtain ⟨logs, results, hruns, hok, rfl⟩ := exists_runsEach_of_misuses hlive hmisuses
  have hflatten : Collector.remembered r logs.flatten
      = (logs.map (Collector.remembered r)).flatten := List.filterMap_flatten
  simp only [check_inOrder hready hc hruns]
  refine ⟨fun schedule => ?_, fun e he => answer_of_join hok (hflatten ▸ he), ?_⟩
  · obtain ⟨log, hlog, hrun⟩ := runAll_sideBySide (p := p) hruns schedule
    refine ⟨Collector.remembered r log, hlog.filterMap _, fun e he => ?_⟩
    rw [check_run_of_runAll hready hc hrun, answer_of_join hok he]
  · rw [← interleaves_eq_flatten_iff]
    constructor
    · intro hall es hes
      obtain ⟨log, hlog, rfl⟩ := hes.of_filterMap
      obtain ⟨schedule, hrun⟩ := exists_runAll_sideBySide (p := p) hruns hlog
      have hanswer := hall schedule
      rw [check_run_of_runAll hready hc hrun] at hanswer
      exact ((answer_eq_iff hok hlog.perm).1 hanswer).trans hflatten
    · intro hall schedule
      obtain ⟨log, hlog, hrun⟩ := runAll_sideBySide (p := p) hruns schedule
      rw [check_run_of_runAll hready hc hrun, answer_eq_iff hok hlog.perm, hflatten]
      exact hall _ (hlog.filterMap _)

end Provider

namespace Trio

/-- A draft that points into a file that it does not name. -/
def unnamed : Draft := { current := { path := some [4] } }

/-- A draft that names a file that is not there. -/
def missing : Draft := { current := { fileName := some "missing.proto" } }

/-- What is wrong with the draft that names no file. -/
def noName : Fault :=
  .invalidFinding ("cannot set " ++ "" ++ "source path without " ++ "" ++ "file name")

/-- What is wrong with the draft that names a file that is not there. -/
def noFile : Fault :=
  .invalidFinding ("cannot add annotation for unknown file: " ++ Text.quoted "missing.proto")

/-- Two rules that make different mistakes, and one that makes none. -/
def careless : Provider := provider (Activity.give unnamed) (Activity.give missing) (pure ())

/-- What the three rules do wrong, by themselves. -/
theorem misuses_careless :
    RuleSpec.Misuses request {} (careless.spec.chosen message.ruleIds) [[noName], [noFile], []] :=
  .cons ⟨[unnamed], .emit (.done _ _), rfl⟩ <| .cons ⟨[missing], .emit (.done _ _), rfl⟩ <|
    .cons ⟨[], .done _ _, rfl⟩ .nil

/-- The two mistakes read differently. -/
theorem noName_ne_noFile : noName ≠ noFile := by
  intro h
  have htext := congrArg String.toList (Fault.invalidFinding.inj h)
  simp [String.toList_append] at htext

end Trio

/-- `Provider.sideBySide_eq_inOrder_iff` for two rules that make different mistakes. -/
theorem Provider.sideBySide_eq_inOrder_iff_careless :
    Trio.careless.Readies Trio.message {} (.ok Trio.request) {} ∧ ({} : CallContext).isLive ∧
      RuleSpec.Misuses Trio.request {} (Trio.careless.spec.chosen Trio.message.ruleIds)
        [[Trio.noName], [Trio.noFile], []] ∧
      ¬ ∀ schedule, ((Trio.careless.running (.sideBySide schedule)).check Trio.message).run {}
        = ((Trio.careless.running .inOrder).check Trio.message).run {} := by
  refine ⟨Trio.readies, by decide, Trio.misuses_careless, fun hall => ?_⟩
  have hpairwise :=
    (sideBySide_eq_inOrder_iff Trio.readies (by decide) Trio.misuses_careless).2.2.1 hall
  have hsame := (List.pairwise_cons.1 hpairwise).1 [Trio.noFile] List.mem_cons_self
  exact Trio.noName_ne_noFile (hsame _ List.mem_cons_self _ List.mem_cons_self)

namespace Trio

/-- The check of the careless rules, run in a way that hands in a log, reports what is wrong with
the log. -/
theorem check_careless {execution : Execution} {log : List (String × Draft)} {e : Fault}
    (hrun : (careless.running execution).runAll request (careless.spec.chosen message.ruleIds) {}
      = (.ok (), {}, (Collector.ofRequest request).addAll log))
    (hjoin : Fault.join (Collector.remembered request log) = some e) :
    ((careless.running execution).check message).run {} = (.error e, {}) := by
  have hanswer : ((careless.running execution).check message).run {}
      = Provider.answer request {} [] log :=
    Provider.check_run_of_runAll readies (by decide) hrun
  exact hanswer.trans (Provider.answer_of_join rfl hjoin)

/-- Two rules make different mistakes, and no rule fails. In order the mistake of the first is
reported first; side by side the one that is made first is, and the text is another. -/
theorem sideBySide_ne_inOrder :
    (∀ rule ∈ careless.spec.chosen message.ruleIds, rule.EndsWith request {} (.ok ())) ∧
    ((careless.running .inOrder).check message).run {} = (.error (.joined [noName, noFile]), {}) ∧
    ((careless.running (.sideBySide [1, 1])).check message).run {}
      = (.error (.joined [noFile, noName]), {}) ∧
    (Fault.joined [noName, noFile]).message ≠ (Fault.joined [noFile, noName]).message := by
  refine ⟨?_, ?_, ?_, by decide +kernel⟩
  · exact forall_chosen (P := fun a => ∃ drafts, a.Runs {} drafts (.ok ()) {})
      ⟨_, .emit (.done _ _)⟩ ⟨_, .emit (.done _ _)⟩ ⟨_, .done _ _⟩ _ request
  · have hlog : Collector.remembered request [("FIRST_RULE", unnamed), ("SECOND_RULE", missing)]
        = [noName, noFile] := rfl
    exact check_careless rfl (congrArg Fault.join hlog)
  · have hlog : Collector.remembered request [("SECOND_RULE", missing), ("FIRST_RULE", unnamed)]
        = [noFile, noName] := rfl
    exact check_careless rfl (congrArg Fault.join hlog)

end Trio

end SchemaCheck
