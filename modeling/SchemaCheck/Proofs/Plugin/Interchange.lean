import SchemaCheck.Proofs.Client.Refused
import SchemaCheck.Proofs.Plugin.Serving

/-!
# Programs in place of providers

A program of a spec serves as a provider of the spec in the same program does, when the operating
system carries its input, its output and its exit code (`Launcher.Carries`). The two transports
agree (`Transport.ofCommand_agrees`), so clients over them cannot be told apart. A program of an
invalid spec is never taken for a provider: over it all calls fail (`Transport.ofCommand_refuses`).
`Plugin.interchangeable` puts this together.
-/

namespace SchemaCheck

section

variable {σ τ : Type} {spec : Spec} {launch : Launcher} {command : Command}

/-! ## The operating system -/

/-- A launcher that runs the program of a spec, and carries its input, its output and its exit code,
for a command whose arguments ask for a call. -/
structure Launcher.Carries (launch : Launcher) (command : Command) (spec : Spec) : Prop where
  /-- The arguments ask for neither help nor anything unknown. -/
  asks : ∀ m : Method, ∃ i, CommandLine.parse (command.args ++ [m.procedure]) = .ok i
  /-- A program that ends has served its input, and leaves what it wrote and its exit code. -/
  ends : ∀ (m : Method) (input : Bytes) (f : Finished),
    launch command.program (command.args ++ [m.procedure]) input = .ok f →
      ∃ schedule code sink,
        Plugin.serve spec (command.args ++ [m.procedure]) (.ok input) {} schedule = (code, sink) ∧
          f.status = .exited code ∧ f.output = sink.written

/-- A launcher that can always start the program of a command. -/
def Launcher.Starts (launch : Launcher) (command : Command) : Prop :=
  ∀ (m : Method) (input : Bytes),
    ∃ f, launch command.program (command.args ++ [m.procedure]) input = .ok f

/-! ## Transports -/

namespace Transport

variable {m : Method} {request : Bytes} {c : CallContext} {s : σ}

/-- In a call that stays live, what comes back from a program is what it left when it ended, or the
failure to start it. -/
theorem ofCommand_cases
    (hlive : ((Transport.ofCommand launch command m request c s).after c).isLive) :
    (∃ detail, (Transport.ofCommand launch command m request c s).result = .error (.io detail) ∧
        launch command.program (command.args ++ [m.procedure]) request = .error detail) ∨
      ∃ f, (Transport.ofCommand launch command m request c s).result = command.result f ∧
        launch command.program (command.args ++ [m.procedure]) request = .ok f := by
  have hc := (Answer.evolves_after _ c).isLive hlive
  unfold Transport.ofCommand at hlive ⊢
  rw [(CallContext.check_eq_ok_iff c).2 hc] at hlive ⊢
  dsimp only at hlive ⊢
  cases hlaunch : launch command.program (command.args ++ [m.procedure]) request with
  | error detail => exact .inl ⟨detail, rfl, rfl⟩
  | ok f =>
    rw [hlaunch] at hlive
    refine .inr ⟨f, ?_, rfl⟩
    dsimp only at hlive ⊢
    cases hcheck : ((⟨.ok [], s, f.cancels, f.time⟩ : Answer σ).after c).check with
    | ok u => rfl
    | error e =>
      rw [hcheck] at hlive
      have hafter := (CallContext.check_eq_ok_iff _).2 hlive
      cases hcheck.symm.trans hafter

/-- In a call that stays live, what comes back from a provider is what it served. -/
theorem ofProvider_cases {q : Provider}
    (hlive : ((Transport.ofProvider q m request c s).after c).isLive) :
    (Transport.ofProvider q m request c s).result = ((q.handle m request).run c).1 ∧
      ((q.handle m request).run c).2.isLive := by
  have hc := (Answer.evolves_after _ c).isLive hlive
  have hevolves := q.handle_evolves m request c
  unfold Transport.ofProvider at hlive ⊢
  rw [(CallContext.check_eq_ok_iff c).2 hc] at hlive ⊢
  generalize (q.handle m request).run c = run at hevolves hlive ⊢
  obtain ⟨result, d⟩ := run
  dsimp only at hlive ⊢
  rw [Answer.after_eq hevolves] at hlive
  exact ⟨rfl, hlive⟩

/-- What a caller makes of a program that reported a result is read as the result is. -/
theorem agree_of_reports {f : Finished} {result : Result Bytes} {code : Nat} {message : Bytes}
    (h : Plugin.Reports result code message) (hmessage : message.IsMessage)
    (hstatus : f.status = .exited code) (houtput : f.output = message ++ [0x0A]) {β : Type}
    (reply : Codec β) :
    Agree False (command.result f >>= reply.ofBytes) (result >>= reply.ofBytes) := by
  cases h with
  | answer =>
    have hresult : command.result f = .ok f.output := by rw [Command.result, hstatus]; rfl
    rw [hresult, houtput]
    show Agree False (reply.ofBytes (message ++ [0x0A])) (reply.ofBytes message)
    rw [reply.ofBytes_append_newline hmessage]
    exact .refl _
  | fault e =>
    have hresult : command.result f = .error (.remote e.code e.message) := by
      rw [Command.result, hstatus, houtput, FaultMessage.codec.ofBytes_append_newline hmessage,
        FaultMessage.ofBytes_toBytes]
      rfl
    rw [hresult]
    exact .fault rfl fun h => h.elim

/-- The program of a valid spec is as good as a provider of the spec. -/
theorem ofCommand_agrees (hvalid : spec.IsValid) (hs : spec.Settled)
    (hcarries : launch.Carries command spec) (hstarts : launch.Starts command) {q : Provider}
    (hq : q.spec = spec) :
    (Transport.ofCommand launch command : Transport σ).Agrees
      (Transport.ofProvider q : Transport τ) := by
  intro m request hblank c c' s s' hlive hlive' β reply
  obtain ⟨hserved, hserved'⟩ := ofProvider_cases hlive'
  rw [hserved]
  obtain ⟨f, hf⟩ := hstarts m request
  obtain ⟨i, hi⟩ := hcarries.asks m
  obtain rfl := CommandLine.method_of_parse hi
  obtain ⟨schedule, code, sink, hserve, hstatus, houtput⟩ := hcarries.ends _ _ _ hf
  obtain ⟨code', message, hrun, hmessage, hreports⟩ :=
    Plugin.run_reports (Provider.ofSpec_eq hvalid (Plugin.execution i schedule)) request
      (show ({} : Plugin.Sink).capacity = none from rfl)
  rw [Plugin.request, if_neg (by simp [hblank])] at hreports
  obtain ⟨rfl, rfl⟩ := Prod.mk.inj ((Plugin.serve_of_run hi hrun).symm.trans hserve)
  rcases ofCommand_cases hlive with ⟨detail, -, hfail⟩ | ⟨f', hresult, hf'⟩
  · cases hf.symm.trans hfail
  · obtain rfl := Except.ok.inj (hf.symm.trans hf')
    rw [hresult]
    have hsame := Provider.handle_agrees (p := ⟨spec, hvalid, Plugin.execution i schedule⟩) hs hq
      i.method request {} c' ((Provider.handle_ages hs _ _ {}).isLive rfl rfl) hserved'
    exact (agree_of_reports hreports hmessage hstatus houtput reply).trans
      ((hsame.mono fun h => h.elim).bind reply.ofBytes)

/-- Over the program of an invalid spec all calls fail. -/
theorem ofCommand_refuses (hinvalid : ¬ spec.IsValid) (hcarries : launch.Carries command spec) :
    (Transport.ofCommand launch command : Transport σ).Refuses .internal := by
  intro m request c s hlive
  rcases ofCommand_cases hlive with ⟨detail, hresult, -⟩ | ⟨f, hresult, hf⟩
  · exact ⟨_, hresult, rfl⟩
  · obtain ⟨i, hi⟩ := hcarries.asks m
    obtain ⟨schedule, code, sink, hserve, hstatus, -⟩ := hcarries.ends _ _ _ hf
    obtain ⟨rfl, -⟩ := Prod.mk.inj ((Plugin.serve_of_invalid hinvalid hi _ _ _).symm.trans hserve)
    have hfails : ∃ text, command.result f = .error (.remote .internal text) := by
      rw [Command.result, hstatus]
      exact ⟨_, rfl⟩
    obtain ⟨text, htext⟩ := hfails
    exact ⟨_, hresult.trans htext, rfl⟩

/-- While a program runs that is never cancelled, nothing but time happens to the context. -/
theorem ofCommand_ages (h : ∀ program args input f, launch program args input = .ok f →
    f.cancels = false) :
    (Transport.ofCommand launch command : Transport σ).Respects CallContext.Ages := by
  intro m request c s
  unfold Transport.ofCommand
  cases c.check with
  | error e => exact ⟨rfl, rfl⟩
  | ok u =>
    cases hlaunch : launch command.program (command.args ++ [m.procedure]) request with
    | error detail => exact ⟨rfl, rfl⟩
    | ok f =>
      have hcancels := h _ _ _ _ hlaunch
      dsimp only
      split
      · simp only [Answer.after, hcancels]
        exact ⟨rfl, rfl⟩
      · simp only [Answer.after, hcancels]
        exact ⟨rfl, rfl⟩

end Transport

/-! ## Programs -/

namespace Plugin

/-- What the program of a valid spec does, and how it compares with a provider in the same program.
-/
structure StandsIn (spec : Spec) (valid : spec.IsValid) : Prop where
  /-- The program writes one message, on a line of its own. It reports what a provider that runs the
  rules in the same way makes of the input, in a new context. -/
  run : ∀ (i : Invocation) (schedule : List Nat) (input : Bytes) (sink : Sink),
    input.isBlank = false → sink.capacity = none → ∃ code message,
      Plugin.run spec i (.ok input) sink schedule
          = (.ok code, { sink with written := sink.written ++ message ++ [0x0A] }) ∧
        message.IsMessage ∧ 0x0A ∉ message ∧
          Reports (((Provider.mk spec valid (execution i schedule)).handle i.method input).run {}).1
            code message
  /-- The exit code of the program is that of the run. -/
  serve : ∀ (args : List String) (i : Invocation) (schedule : List Nat)
    (input : Except String Bytes) (sink out : Sink) (code : Nat), CommandLine.parse args = .ok i →
      Plugin.run spec i input sink schedule = (.ok code, out) →
        Plugin.serve spec args input sink schedule = (code, out)
  /-- White space alone is served as an empty object. -/
  blank : ∀ (i : Invocation) (schedule : List Nat) (input : Bytes) (sink : Sink),
    input.isBlank = true → Plugin.run spec i (.ok input) sink schedule
      = Plugin.run spec i (.ok [0x7B, 0x7D]) sink schedule
  /-- Providers of the spec answer alike in all calls that stay live: with the same answers, or with
  faults under the same code. The faults are the same too if both run the rules in order. -/
  handle : ∀ (p q : Provider), p.spec = spec → q.spec = spec → ∀ (m : Method) (request : Bytes),
    Served.Agrees (p.execution = .inOrder ∧ q.execution = .inOrder) (p.handle m request)
      (q.handle m request)
  /-- A client over the program cannot be told from a client of a provider. -/
  client : ∀ {σ τ : Type} {launch : Launcher} {command : Command} {q : Provider},
    launch.Carries command spec → launch.Starts command → q.spec = spec →
      ∀ (options : ClientOptions) (maxPages : Nat),
        ({ transport := .ofCommand launch command, options, maxPages } : Client σ).Indistinguishable
          ({ transport := .ofProvider q, options, maxPages } : Client τ)
  /-- While a client of a provider is asked something, nothing but time happens to the context. So a
  call that nobody cancels stays live until its deadline. -/
  ages : ∀ {τ : Type} {q : Provider}, q.spec = spec →
    ∀ (options : ClientOptions) (maxPages : Nat) (question : Client.Question),
      (({ transport := .ofProvider q, options, maxPages } : Client τ).respond question).Respects
        CallContext.Ages
  /-- Nor does anything else while a client over a program is, if nobody cancels the call meanwhile.
  -/
  ages' : ∀ {σ : Type} {launch : Launcher},
    (∀ program args input f, launch program args input = .ok f → f.cancels = false) →
      ∀ (command : Command) (options : ClientOptions) (maxPages : Nat)
        (question : Client.Question),
        (({ transport := .ofCommand launch command, options, maxPages } : Client σ).respond
          question).Respects CallContext.Ages

/-- What the program of an invalid spec does: it writes nothing and says by its exit code that it
could not serve, and over it everything fails. -/
structure Declines (spec : Spec) : Prop where
  run : ∀ (i : Invocation) (input : Except String Bytes) (sink : Sink) (schedule : List Nat),
    ∃ e, Plugin.run spec i input sink schedule = (.error e, sink)
  serve : ∀ (args : List String) (i : Invocation) (input : Except String Bytes) (sink : Sink)
    (schedule : List Nat), CommandLine.parse args = .ok i →
      Plugin.serve spec args input sink schedule = (2, sink)
  call : ∀ {σ : Type} {launch : Launcher} {command : Command}, launch.Carries command spec →
    (Transport.ofCommand launch command : Transport σ).Refuses .internal
  client : ∀ {σ : Type} {launch : Launcher} {command : Command}, launch.Carries command spec →
    ∀ (options : ClientOptions) (maxPages : Nat), 0 < maxPages →
      ({ transport := .ofCommand launch command, options, maxPages } : Client σ).FailsAlways
        .internal

/-- The program of a valid spec that is settled stands in for a provider of it. -/
theorem standsIn (valid : spec.IsValid) (hs : spec.Settled) : StandsIn spec valid where
  run i schedule input sink hinput hsink := by
    obtain ⟨code, message, hrun, hmessage, hreports⟩ :=
      run_reports (Provider.ofSpec_eq valid (execution i schedule)) input hsink
    rw [request, if_neg (by simp [hinput])] at hreports
    exact ⟨code, message, hrun, hmessage, hmessage.newline_not_mem, hreports⟩
  serve _ _ _ _ _ _ _ hargs hrun := serve_of_run hargs hrun
  blank i schedule _ sink hblank := run_of_isBlank hblank i sink schedule
  handle p q hp hq := Provider.handle_agrees (hp ▸ hs) (hq.trans hp.symm)
  client hcarries hstarts hq options maxPages :=
    Client.indistinguishable (Transport.ofCommand_agrees valid hs hcarries hstarts hq) rfl rfl
  ages hq _ _ question :=
    Client.respond_respects CallContext.ages_isChange (Transport.ofProvider_respects
      CallContext.ages_isChange (Provider.handle_ages (hq ▸ hs))) question
  ages' h _ _ _ question :=
    Client.respond_respects CallContext.ages_isChange (Transport.ofCommand_ages h) question

/-- The program of an invalid spec declines to serve. -/
theorem declines (hinvalid : ¬ spec.IsValid) : Declines spec where
  run := run_of_invalid hinvalid
  serve _ _ input sink schedule hargs := serve_of_invalid hinvalid hargs input sink schedule
  call hcarries := Transport.ofCommand_refuses hinvalid hcarries
  client hcarries _ _ hpages :=
    Client.failsAlways (Transport.ofCommand_refuses hinvalid hcarries) hpages

/-- A program can stand in for a provider: that of a valid spec whose hook and rules are settled by
the request is as good as a provider of the spec, and that of an invalid spec serves nothing. -/
theorem interchangeable (spec : Spec) :
    (∀ valid : spec.IsValid, spec.Settled → StandsIn spec valid) ∧
      (¬ spec.IsValid → Declines spec) :=
  ⟨fun valid hs => standsIn valid hs, declines⟩

end Plugin

end

/-! ## The demonstration rules as a program -/

namespace Demo

/-- Runs the demonstration rules as a program. -/
def launch : Launcher := fun _ args input =>
  let (code, sink) := Plugin.serve spec args (.ok input) {} [2, 0, 1]
  .ok { status := .exited code, output := sink.written }

/-- The demonstration rules as a program that runs them side by side. -/
def command : Command where
  program := "demonstration"
  args := ["--parallel"]

/-- The arguments ask for a call, and a run of the program is one of serving the demonstration spec.
-/
theorem launch_carries : launch.Carries command spec where
  asks m := by cases m <;> exact ⟨_, rfl⟩
  ends m input f hf := by
    cases hf
    exact ⟨[2, 0, 1], _, _, rfl, rfl, rfl⟩

/-- The program starts whenever it is asked to. -/
theorem launch_starts : launch.Starts command := fun _ _ => ⟨_, rfl⟩

/-- The program cancels nothing. -/
theorem launch_cancels (program : String) (args : List String) (input : Bytes) (f : Finished)
    (h : launch program args input = .ok f) : f.cancels = false := by
  cases h
  rfl

/-- The demonstration rules are settled by the request. -/
theorem spec_settled : spec.Settled where
  rules rule hrule r :=
    ⟨(rules_inputOnly rule hrule).determined rule.id r, (rules_calm rule hrule rule.id r).keeps⟩
  before _ h := nomatch h

end Demo

/-- `Plugin.interchangeable` for the demonstration rules and for a spec without rules: as a program
that runs them side by side, the demonstration rules are listed as they are declared; without rules,
nothing is served. -/
theorem Plugin.interchangeable_demo :
    Demo.spec.IsValid ∧ Demo.spec.Settled ∧ Demo.launch.Carries Demo.command Demo.spec ∧
      Demo.launch.Starts Demo.command ∧
      (∃ t, ({ transport := .ofCommand Demo.launch Demo.command } : Client Unit).listRules.runIn
        ⟨{}, { link := () }⟩ = (.ok Demo.spec.listedRules, t)) ∧
      ¬ ({ rules := [] } : Spec).IsValid ∧ Declines { rules := [] } := by
  have hstands := (interchangeable Demo.spec).1 Demo.spec_isValid Demo.spec_settled
  have hinvalid : ¬ ({ rules := [] } : Spec).IsValid := fun h => (Spec.isValid_iff.1 h).1 rfl
  refine ⟨Demo.spec_isValid, Demo.spec_settled, Demo.launch_carries, Demo.launch_starts, ?_,
    hinvalid, (interchangeable { rules := [] }).2 hinvalid⟩
  let q : Provider := ⟨Demo.spec, Demo.spec_isValid, .inOrder⟩
  let remote : Client Unit := { transport := .ofCommand Demo.launch Demo.command }
  let here : Client Unit := Client.ofProvider q
  have hages := hstands.ages (q := q) rfl {} 1000000 .rules ⟨{}, { link := () }⟩
  have hages' := hstands.ages' Demo.launch_cancels Demo.command {} 1000000 .rules
    ⟨{}, { link := () }⟩
  have hsame : Call.Matches (remote.listRules.runIn ⟨{}, { link := () }⟩).1
      (here.listRules.runIn ⟨{}, { link := () }⟩).1 :=
    hstands.client Demo.launch_carries Demo.launch_starts rfl {} 1000000 () () [] [] rfl trivial
      trivial .rules {} {} (hages'.isLive rfl rfl) (hages.isLive rfl rfl)
  have hlocal : here.IsLocal q := ⟨rfl, by decide, by decide⟩
  have hready : ClientState.Ready Demo.spec ⟨{}, { link := () }⟩ :=
    ⟨by decide, ListingCache.fits_empty _⟩
  obtain ⟨t, hrun, -⟩ := Client.listRules_gives hlocal _ hready
  rw [hrun] at hsame
  generalize remote.listRules.runIn ⟨{}, { link := () }⟩ = run at hsame
  obtain ⟨result, u⟩ := run
  cases hsame
  exact ⟨u, rfl⟩

end SchemaCheck
