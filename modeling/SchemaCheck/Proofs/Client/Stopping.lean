import SchemaCheck.Proofs.Activity.Interleaving
import SchemaCheck.Proofs.Activity.Stalling
import SchemaCheck.Proofs.Client.Composition
import SchemaCheck.Proofs.Client.Course

/-!
# Calls that are over

Once a call is cancelled, or its deadline has come, nothing that it stands for begins. No transport
is used any more, and no rule of a provider that runs rules one after another begins
(`Provider.Performs.starts_live`); when rules run side by side, one that has not begun by then makes
the check fail (`Provider.check_stalls`). A check that comes to a response all the same had nothing
left to do. This holds of every composition of clients, over whatever transports and providers:
`Composition.stopsInTime`.
-/

namespace SchemaCheck

/-! ## Rules one after another -/

namespace RuleSpec.Course

variable {r : Request} {rules : List RuleSpec} {c d : CallContext} {runs : List RuleRun}
  {result : Result Unit}

/-- Through the course of its rules a check lets the context evolve. -/
theorem evolves (h : Course r rules c runs result d) : c.Evolves d := by
  induction h with
  | nil | late => exact .refl _
  | next _ hruns _ ih => exact hruns.evolves.trans ih
  | fails _ hruns => exact hruns.evolves

/-- In a context that is not live no rule runs. -/
theorem eq_nil (h : Course r rules c runs result d) (hc : ¬ c.isLive) : runs = [] := by
  cases h with
  | nil | late => rfl
  | next hlive | fails hlive => exact absurd hlive hc

/-- Each rule starts in a live context, and one that leaves a context that is not live is the last.
-/
theorem starts_live {first rest : List RuleRun} {run : RuleRun}
    (h : Course r rules c (first ++ run :: rest) result d) :
    ∃ d₁ d₂, d₁.isLive ∧ (run.rule.handler run.rule.id r).Runs d₁ run.drafts run.result d₂ ∧
      d₂.Evolves d ∧ (¬ d₂.isLive → rest = []) := by
  induction first generalizing rules c with
  | nil =>
    cases h with
    | next hlive hruns hrest => exact ⟨_, _, hlive, hruns, hrest.evolves, hrest.eq_nil⟩
    | fails hlive hruns => exact ⟨_, _, hlive, hruns, .refl _, fun _ => rfl⟩
  | cons _ first ih =>
    generalize hall : (_ :: first) ++ run :: rest = all at h
    cases h with
    | nil | late => cases hall
    | next _ _ hrest =>
      cases hall
      exact ih hrest
    | fails =>
      obtain ⟨-, hnil⟩ := List.cons.inj hall
      exact absurd hnil (List.append_ne_nil_of_right_ne_nil _ (List.cons_ne_nil _ _))

end RuleSpec.Course

/-- What a proper call for a check of a provider is: the message cannot be read, or it is checked.
-/
theorem LoggedCall.Proper.check_cases {p : Provider} {call : LoggedCall} (h : call.Proper)
    (hprovider : call.provider = some p) (hmethod : call.method = .check) :
    (∃ e, CheckMessage.codec.ofBytes call.request = .error e ∧ call.result = .error e) ∨
    ∃ m result, CheckMessage.codec.ofBytes call.request = .ok m ∧
      (p.check m).run call.before = (result, call.after) ∧
      call.result = result.map CheckReply.codec.toBytes := by
  have hserved := h.served p hprovider
  rw [hmethod, Provider.handle, Served.run_bind, Served.run_ofResult] at hserved
  cases hread : CheckMessage.codec.ofBytes call.request with
  | error e =>
    rw [hread] at hserved
    exact .inl ⟨e, rfl, (Prod.mk.inj hserved).1.symm⟩
  | ok m =>
    rw [hread] at hserved
    simp only at hserved
    rw [Served.run_bind] at hserved
    cases hrun : (p.check m).run call.before with
    | mk result d =>
      rw [hrun] at hserved
      cases result with
      | error e =>
        obtain ⟨hresult, rfl⟩ := Prod.mk.inj hserved
        exact .inr ⟨m, .error e, rfl, hrun, hresult.symm⟩
      | ok reply =>
        obtain ⟨hresult, rfl⟩ := Prod.mk.inj hserved
        exact .inr ⟨m, .ok reply, rfl, hrun, hresult.symm⟩

namespace Provider

/-- What a provider that runs rules in order does in a call for a check: it cannot read the message,
or has no request that is ready, and runs nothing; or the rules that the message names take their
course, and there is an answer only when none fails. -/
inductive Performs (p : Provider) (call : LoggedCall) : List RuleRun → Prop where
  | unread {e : Fault} : CheckMessage.codec.ofBytes call.request = .error e →
      call.result = .error e → Performs p call []
  | unready {m : CheckMessage} {e : Fault} : CheckMessage.codec.ofBytes call.request = .ok m →
      p.Readies m call.before (.error e) call.after → call.result = .error e → Performs p call []
  | ran {m : CheckMessage} {r : Request} {d : CallContext} {runs : List RuleRun}
      {result : Result Unit} : CheckMessage.codec.ofBytes call.request = .ok m →
      p.Readies m call.before (.ok r) d →
      RuleSpec.Course r (p.spec.chosen m.ruleIds) d runs result call.after →
      (∀ reply, call.result = .ok reply → result = .ok ()) → Performs p call runs

variable {p : Provider} {call : LoggedCall}

/-- For every call for a check there are runs of rules that its provider performs, perhaps none. -/
theorem exists_performs (hcall : call.Proper) (hprovider : call.provider = some p)
    (hp : p.execution = .inOrder) (hmethod : call.method = .check) :
    ∃ runs, p.Performs call runs := by
  rcases hcall.check_cases hprovider hmethod with
    ⟨e, hread, hresult⟩ | ⟨m, result, hread, hrun, hresult⟩
  · exact ⟨[], .unread hread hresult⟩
  · rw [check_run_eq_iff hp m hcall.live] at hrun
    cases hrun with
    | unready hready => exact ⟨[], .unready hread hready hresult⟩
    | fails hready hruns =>
      obtain ⟨runs, hcourse, -⟩ := hruns.exists_course
      exact ⟨runs, .ran hread hready hcourse fun reply h => nomatch hresult.symm.trans h⟩
    | answered hready hruns _ =>
      obtain ⟨runs, hcourse, -⟩ := hruns.exists_course
      exact ⟨runs, .ran hread hready hcourse fun _ _ => rfl⟩

/-- A provider that answers has run all the rules that the message names. -/
theorem Performs.map_rule_eq {runs : List RuleRun} (h : p.Performs call runs) {m : CheckMessage}
    (hread : CheckMessage.codec.ofBytes call.request = .ok m) {reply : Bytes}
    (hresult : call.result = .ok reply) : runs.map RuleRun.rule = p.spec.chosen m.ruleIds := by
  cases h with
  | unread hread' => cases hread'.symm.trans hread
  | unready _ _ hresult' => cases hresult'.symm.trans hresult
  | ran hread' _ hcourse hok =>
    cases hread'.symm.trans hread
    obtain rfl := hok reply hresult
    exact hcourse.map_rule_eq

/-- Each rule that runs starts in a live context, and one that leaves a context that is not live is
the last; the context after the call is then not live either. -/
theorem Performs.starts_live {first rest : List RuleRun} {run : RuleRun}
    (h : p.Performs call (first ++ run :: rest)) :
    ∃ d₁ d₂, d₁.isLive ∧
      (run.rule.handler run.rule.id run.request).Runs d₁ run.drafts run.result d₂ ∧
      (¬ d₂.isLive → rest = [] ∧ ¬ call.after.isLive) := by
  generalize hruns : first ++ run :: rest = runs at h
  cases h with
  | unread | unready => exact absurd hruns (by simp)
  | ran _ _ hcourse _ =>
    subst hruns
    obtain ⟨d₁, d₂, hlive, hrun, hevolves, hlast⟩ := hcourse.starts_live
    rw [hcourse.request_eq run (by simp)]
    exact ⟨d₁, d₂, hlive, hrun, fun hdead => ⟨hlast hdead, fun h => hdead (hevolves.isLive h)⟩⟩

end Provider

/-! ## Rules side by side -/

/-- When a provider runs rules side by side, and the call is over after some turns, a rule that has
not begun by then makes the check fail. -/
theorem Provider.check_stalls {p : Provider} {m : CheckMessage} {c d : CallContext} {r : Request}
    {turns later : List Nat} (hp : p.execution = .sideBySide (turns ++ later))
    (hready : p.Readies m c (.ok r) d) (hc : c.isLive) :
    let left := Activity.runTurns collect turns ((p.spec.chosen m.ruleIds).map (activity r)) d
      (Collector.ofRequest r)
    ¬ left.2.1.isLive → (∃ rule, activity r rule ∈ left.1) →
      ∃ e, ((p.check m).run c).1 = .error e := by
  rintro left hdead ⟨rule, hrule⟩
  obtain ⟨e, he⟩ := Activity.runSideBySide_stalls hdead collect later
    ⟨_, hrule, .unbegun (rule.handler rule.id r)⟩ left.2.2
  have hrun : (p.runAll r (p.spec.chosen m.ruleIds) d).1 = .error e := by
    rw [runAll, hp]
    simp only
    rw [Activity.runSideBySide, Activity.runTurns_append]
    exact he
  refine ⟨e, ?_⟩
  rw [check_run_of_readies hready hc, runRules_run]
  generalize p.runAll r (p.spec.chosen m.ruleIds) d = run at hrun
  obtain ⟨result, left⟩ := run
  obtain rfl : result = .error e := hrun
  rfl

/-! ## Compositions -/

/-- A call that is over was cancelled, or its deadline has come. -/
theorem CallContext.eq_of_check {c : CallContext} {e : Fault} (h : c.check = .error e) :
    e = .cancelled ∨ e = .deadlineExceeded := by
  unfold check at h
  split at h
  · exact .inl (Except.error.inj h).symm
  · split at h
    · exact .inr (Except.error.inj h).symm
    · cases h

/-- A check by a client in a call that is over fails with what is wrong with the call. -/
theorem Client.check_of_over {τ : Type} (c : Client τ) (r : Request) {s : Session (ClientState τ)}
    {e : Fault} (hcheck : s.context.check = .error e) :
    (c.check r).runIn s = (.error (.fault e), s) := by
  rw [check, Call.runIn_bind]
  cases hmessages : r.messages with
  | nil => exact absurd hmessages r.messages_ne_nil
  | cons m messages => rw [sendAll, Call.runIn_bind, ask_of_not_live hcheck]

namespace Composition

variable {σ : Type}

/-- A check in a call that is over fails with what is wrong with the call, unless some client is
made of no clients. -/
theorem check_of_over : (K : Composition σ) → K.Peopled → ∀ (r : Request) {s : Session σ}
    {e : Fault}, s.context.check = .error e → ((K.client.check r).runIn s).1 = .error (.fault e)
  | one m, _, r, s, e, hcheck =>
    congrArg Prod.fst (m.client.check_of_over r (s := ⟨s.context, m.slot.get s.state⟩) hcheck)
  | several [], hK, _, _, _, _ => absurd rfl hK.1
  | several [K], hK, r, _, _, hcheck => check_of_over K hK.2.1 r hcheck
  | several (K :: K' :: parts), _, r, s, e, hcheck => by
    show ((CheckClient.checkAmong (clients (K :: K' :: parts)) r).runIn s).1 = _
    rw [CheckClient.checkAmong, Call.runIn_bind, clients, CheckClient.listEach, Call.runIn_bind,
      Call.runIn_check, hcheck]
    rfl

/-- What it means that a composition stops in time. -/
structure StopsInTime (K : Composition σ) : Prop where
  /-- To keep a log of the calls changes nothing else. -/
  logged : ∀ q s, Call.Makes Prod.mk (K.client.respond q) (K.logged.respond q) s (K.calls q s)
  /-- In a call that is over no transport is used, whatever is asked. -/
  unused : ∀ q s, ¬ s.context.isLive → K.calls q s = []
  /-- A check in a call that is over fails with what is wrong with the call, unless some client is
  made of no clients. -/
  refused : K.Peopled → ∀ r s, ¬ s.context.isLive →
    ∃ e, (e = .cancelled ∨ e = .deadlineExceeded) ∧ s.context.check = .error e ∧
      ((K.client.check r).runIn s).1 = .error (.fault e)
  /-- A transport is used while the call is not over, and when it is over afterwards no transport is
  used again. -/
  calls : ∀ q s before call after, K.calls q s = before ++ call :: after →
    call.before.isLive ∧ (¬ call.after.isLive → after = [])
  /-- In a call of a provider that runs rules one after another, each rule begins while the call is
  not over; and when it is over once the rule is done, the rule is the last to run, and no transport
  is used again. If the provider answers, all rules that the message names were run. -/
  rules : ∀ q s before call after p, K.calls q s = before ++ call :: after →
    call.provider = some p → p.execution = .inOrder → call.method = .check →
    ∃ runs, p.Performs call runs ∧
      (∀ first run rest, runs = first ++ run :: rest → ∃ d₁ d₂, d₁.isLive ∧
        (run.rule.handler run.rule.id run.request).Runs d₁ run.drafts run.result d₂ ∧
        (¬ d₂.isLive → rest = [] ∧ after = [])) ∧
      ∀ m reply, CheckMessage.codec.ofBytes call.request = .ok m → call.result = .ok reply →
        runs.map RuleRun.rule = p.spec.chosen m.ruleIds
  /-- When a provider runs rules side by side, and the call is over when some have not begun, the
  provider does not answer. -/
  sideBySide : ∀ q s, ∀ call ∈ K.calls q s, ∀ p turns later m r d, call.provider = some p →
    p.execution = .sideBySide (turns ++ later) → call.method = .check →
    CheckMessage.codec.ofBytes call.request = .ok m → p.Readies m call.before (.ok r) d →
    let left := Activity.runTurns Provider.collect turns
      ((p.spec.chosen m.ruleIds).map (Provider.activity r)) d (Collector.ofRequest r)
    ¬ left.2.1.isLive → (∃ rule, Provider.activity r rule ∈ left.1) →
      ∃ e, call.result = .error e
  /-- A check that comes to a response had all messages of all that were to check answered, and left
  out none that was to check. -/
  completes : ∀ r s response t, (K.client.check r).runIn s = (.ok response, t) →
    K.Completes r s (K.calls (.check r) s) t ∧
      ∀ call ∈ K.calls (.check r) s, ∃ reply, call.result = .ok reply

/-- Every composition of clients stops in time. -/
theorem stopsInTime (K : Composition σ) : K.StopsInTime where
  logged := K.makes
  unused q s hdead := (K.makes q s).lead.eq_nil hdead
  refused hK r s hdead := by
    cases hcheck : s.context.check with
    | ok u => exact absurd ((CallContext.check_eq_ok_iff _).1 hcheck) hdead
    | error e => exact ⟨e, CallContext.eq_of_check hcheck, rfl, K.check_of_over hK r hcheck⟩
  calls q s before call after hcalls := by
    have hlead := (K.makes q s).lead
    rw [hcalls] at hlead
    exact ⟨(hlead.proper call (by simp)).live, hlead.eq_nil_of_after⟩
  rules q s before call after p hcalls hprovider hp hmethod := by
    have hlead := (K.makes q s).lead
    rw [hcalls] at hlead
    obtain ⟨runs, hperforms⟩ :=
      Provider.exists_performs (hlead.proper call (by simp)) hprovider hp hmethod
    refine ⟨runs, hperforms, ?_, fun m reply hread hresult => hperforms.map_rule_eq hread hresult⟩
    rintro first run rest rfl
    obtain ⟨d₁, d₂, hlive, hrun, hlast⟩ := hperforms.starts_live
    refine ⟨d₁, d₂, hlive, hrun, fun hdead => ?_⟩
    obtain ⟨hrest, hafter⟩ := hlast hdead
    exact ⟨hrest, hlead.eq_nil_of_after hafter⟩
  sideBySide q s call hcall p turns later m r d hprovider hp hmethod hread hready := by
    -- a rule that has not begun when the call is over stalls, and so the check fails
    intro left hdead hrule
    have hproper := (K.makes q s).lead.proper call hcall
    obtain ⟨e, he⟩ := Provider.check_stalls hp hready hproper.live hdead hrule
    rcases hproper.check_cases hprovider hmethod with
      ⟨e', hread', -⟩ | ⟨m', result, hread', hrun, hresult⟩
    · cases hread'.symm.trans hread
    · cases hread'.symm.trans hread
      rw [hrun] at he
      obtain rfl : result = .error e := he
      exact ⟨e, hresult⟩
  completes r s response t h :=
    ⟨completes_check h, (K.makes (.check r) s).answered response (congrArg Prod.fst h)⟩

end Composition

end SchemaCheck
