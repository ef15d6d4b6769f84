import SchemaCheck.Proofs.Demo.Crowd
import SchemaCheck.Proofs.Request.Splitting

/-!
# A client of a provider in the same program

To ask such a provider is to be served by it: nothing is lost on the way there and back
(`Client.ask_ofProvider`). A check that stays live gives the verdict on the request, however many
messages it takes (`Client.check_verdict`), and so what the provider answers to a single message
that names all rules (`Client.check_iff_direct`).
-/

namespace SchemaCheck

variable {τ α β : Type} {p : Provider}

namespace Client

variable {c : Client τ}

/-- To ask in a live call is to send the message and to read what comes back. -/
theorem ask_runIn {method : Method} {request : Codec α} {reply : Codec β} {message : α}
    {s : Session (ClientState τ)} (hlive : s.context.isLive) :
    (c.ask method request reply message).runIn s
      = (let a := c.transport method (request.toBytes message) s.context s.state.link
        (Call.lift (a.result >>= reply.ofBytes),
          ⟨a.after s.context, { s.state with link := a.state }⟩)) := by
  rw [ask, Call.runIn_bind, Call.runIn_check, (CallContext.check_eq_ok_iff _).2 hlive]
  simp only [Call.lift]
  rw [Call.runIn_bind, Call.within, Call.runIn_mk, Transport.send, Call.runIn_mk]
  have hslot : ClientState.linkSlot.get s.state = s.state.link := rfl
  rw [hslot]
  dsimp only
  generalize c.transport method (request.toBytes message) s.context s.state.link = a
  obtain ⟨_ | _, state, cancels, time⟩ := a <;> rfl

/-- To ask in a call that is over is to fail. -/
theorem ask_of_not_live {method : Method} {request : Codec α} {reply : Codec β} {message : α}
    {s : Session (ClientState τ)} {e : Fault} (hcheck : s.context.check = .error e) :
    (c.ask method request reply message).runIn s = (.error (.fault e), s) := by
  rw [ask, Call.runIn_bind, Call.runIn_check, hcheck]
  rfl

/-- To ask a provider in the same program is to be served by it, given that it reads the request and
that its answers are read back. -/
theorem ask_ofProvider (hc : c.transport = Transport.ofProvider p) {method : Method}
    {request : Codec α} {reply : Codec β} {message : α} {serve : Served β}
    (hhandle : p.handle method (request.toBytes message)
      = (do let answer ← serve; return reply.toBytes answer))
    (hserve : serve.Respects CallContext.Evolves)
    (hreads : ∀ answer, reply.ofBytes (reply.toBytes answer) = .ok answer)
    {s : Session (ClientState τ)} (hlive : s.context.isLive) :
    (c.ask method request reply message).runIn s
      = (Call.lift (serve.run s.context).1, ⟨(serve.run s.context).2, s.state⟩) := by
  have hevolves := hserve s.context
  rw [ask_runIn hlive, hc]
  simp only [Transport.ofProvider, (CallContext.check_eq_ok_iff _).2 hlive, hhandle]
  rw [Served.run_bind]
  cases hrun : serve.run s.context with
  | mk result d =>
    rw [hrun] at hevolves
    cases result with
    | ok answer =>
      simp only [Served.run_pure, Answer.after_eq hevolves]
      exact congrArg (fun r => (Call.lift r, _)) (hreads answer)
    | error e =>
      simp only [Answer.after_eq hevolves]
      rfl

/-- A message for a check that is not nested too deep is checked. -/
theorem ask_check (hc : c.transport = Transport.ofProvider p) {m : CheckMessage}
    (hm : CheckMessage.codec.ofBytes (CheckMessage.codec.toBytes m) = .ok m)
    {s : Session (ClientState τ)} (hlive : s.context.isLive) :
    (c.ask .check CheckMessage.codec CheckReply.codec m).runIn s
      = (Call.lift ((p.check m).run s.context).1, ⟨((p.check m).run s.context).2, s.state⟩) := by
  refine ask_ofProvider hc ?_ (p.check_evolves m) CheckReply.ofBytes_toBytes hlive
  rw [Provider.handle, hm]
  rfl

end Client

/-! ## Checks -/

/-- The drafts that a client makes of entries. -/
def FindingEntry.drafts (es : List FindingEntry) : List (String × Draft) :=
  es.map fun e => (e.ruleId, Draft.ofEntry e)

namespace Client

variable {c : Client τ} {r : Request}

/-- To collect entries is to add the drafts that are made of them. -/
theorem collectEntries_eq (collector : Collector) (es : List FindingEntry) :
    collectEntries collector es = collector.addAll (FindingEntry.drafts es) := by
  simp [collectEntries, Collector.addAll, FindingEntry.drafts, List.foldl_map]

/-- Entries of two replies are collected one reply after the other. -/
theorem collectEntries_append (collector : Collector) (es fs : List FindingEntry) :
    collectEntries collector (es ++ fs) = collectEntries (collectEntries collector es) fs :=
  List.foldl_append

/-- The findings of admitted entries say what the entries say. -/
theorem finish_collectEntries {es : List FindingEntry}
    (h : ∀ e ∈ es, r.Admits (e.ruleId, Draft.ofEntry e)) :
    ∃ response, (collectEntries (Collector.ofRequest r) es).finish.1 = .ok response ∧
      response.reply.findings = FindingEntry.sort es ∧ ∀ f ∈ response.findings, f.IsOf r := by
  have hall : ∀ e ∈ FindingEntry.drafts es, r.Admits e := by
    intro e he
    obtain ⟨entry, hentry, rfl⟩ := List.mem_map.1 he
    exact h entry hentry
  rw [collectEntries_eq]
  have hfinish : ((Collector.ofRequest r).addAll (FindingEntry.drafts es)).finish.1 = .ok _ :=
    Collector.finish_addAll_eq_ok_iff.2 ⟨hall, rfl⟩
  refine ⟨_, hfinish, ?_, Collector.isOf_of_finish hfinish⟩
  have hentries : (FindingEntry.drafts es).map (fun e => e.2.entry e.1) = es := by
    simp [FindingEntry.drafts, Function.comp_def]
  have := Collector.entries_of_finish hfinish
  rw [hentries] at this
  exact this

/-- A check by rules that leave the context alone leaves it as it was. -/
theorem check_context (hc : c.transport = Transport.ofProvider p) (hp : p.spec.before = none)
    (hcalm : ∀ rule ∈ p.spec.rules, rule.handler.Calm) (s : Session (ClientState τ)) :
    ((c.check r).runIn s).2.context = s.context := by
  have htransport : c.transport.Respects Eq := by
    rw [hc]
    exact Transport.ofProvider_respects CallContext.eq_isChange (Provider.handle_still hp hcalm)
  exact (check_respects CallContext.eq_isChange htransport r s).symm

/-- Sending messages lets the context evolve. -/
theorem sendAll_evolves (c : Client τ) (collector : Collector) (messages : List CheckMessage) :
    (c.sendAll collector messages).Respects CallContext.Evolves :=
  sendAll_respects CallContext.evolves_isChange c.transport.evolves collector messages

/-- Sending some of the messages of a request collects what the provider finds on them, or there is
no verdict on one of them. The induction is on the messages; each is asked in the session that those
before it leave. -/
theorem sendAll_cases (hc : c.transport = Transport.ofProvider p) (hp : p.spec.before = none)
    (hdepth : (CheckMessage.codec.encode (r.message r.ruleIds)).depth ≤ 127)
    (parts : List (List String)) (hparts : ∀ ids ∈ parts, ids ∈ r.parts) (collector : Collector)
    (s : Session (ClientState τ))
    (hlive : ((c.sendAll collector (parts.map r.message)).runIn s).2.context.isLive) :
    (∃ sent es, ((c.sendAll collector (parts.map r.message)).runIn s).1
        = .ok (collectEntries collector sent) ∧ sent.Perm es ∧
      (∀ ids ∈ parts, ∀ id ∈ ids, id ∈ p.spec.ruleIds) ∧
      RuleSpec.FindsAll r (parts.flatMap p.spec.chosen) es) ∨
    (∃ e, ((c.sendAll collector (parts.map r.message)).runIn s).1 = .error (.fault e)) ∧
      ∃ ids ∈ parts, p.spec.Verdict r ids none := by
  induction parts generalizing collector s with
  | nil => exact .inl ⟨[], [], rfl, .refl _, by simp, .nil⟩
  | cons ids parts ih =>
    have hids : ids ∈ r.parts := hparts ids List.mem_cons_self
    have hs : s.context.isLive := (sendAll_evolves c _ _ s).isLive hlive
    have hask := ask_check hc (Request.ofBytes_toBytes_message hdepth ids) hs
    rw [List.map_cons, sendAll, Call.runIn_bind, hask] at hlive ⊢
    have hverdict := p.check_verdict hp r (Request.sorted_of_mem_parts hids)
      (Request.valid_of_mem_parts hids) s.context
    cases hrun : (p.check (r.message ids)).run s.context with
    | mk result d =>
      rw [hrun] at hlive hverdict
      cases result with
      | error e => exact .inr ⟨⟨e, rfl⟩, ids, List.mem_cons_self, hverdict hlive⟩
      | ok reply =>
        have hd : d.isLive := (sendAll_evolves c _ _ ⟨d, s.state⟩).isLive hlive
        have hfirst : p.spec.Verdict r ids (some reply.findings) := hverdict hd
        rcases ih (fun ids h => hparts ids (List.mem_cons_of_mem _ h))
            (collectEntries collector reply.findings) ⟨d, s.state⟩ hlive with
          ⟨sent, es, hresult, hperm, hknown, hfound⟩ | ⟨⟨e, hresult⟩, part, hpart, hnone⟩
        · obtain ⟨hidsknown, first, hfirst, hsort⟩ := hfirst.exists_findsAll
          -- the provider sorts what it finds on each message; the client sorts all of it again
          refine .inl ⟨reply.findings ++ sent, first ++ es, ?_, ?_, ?_, ?_⟩
          · rw [collectEntries_append]
            exact hresult
          · rw [hsort]
            exact (FindingEntry.sort_perm first).append hperm
          · intro part hpart
            rcases List.mem_cons.1 hpart with rfl | hpart
            · exact hidsknown
            · exact hknown part hpart
          · rw [List.flatMap_cons]
            exact hfirst.append hfound
        · exact .inr ⟨⟨e, hresult⟩, part, List.mem_cons_of_mem _ hpart, hnone⟩

/-- A check by a client that stays live gives the verdict on the request, with findings of the
request. -/
theorem check_verdict (hc : c.transport = Transport.ofProvider p) (hp : p.spec.before = none)
    (hdepth : (CheckMessage.codec.encode (r.message r.ruleIds)).depth ≤ 127)
    (s : Session (ClientState τ)) (hlive : ((c.check r).runIn s).2.context.isLive) :
    (∃ response, ((c.check r).runIn s).1 = .ok response ∧
      p.spec.Verdict r r.ruleIds (some response.reply.findings) ∧
      ∀ f ∈ response.findings, f.IsOf r) ∨
    (∃ e, ((c.check r).runIn s).1 = .error (.fault e)) ∧ p.spec.Verdict r r.ruleIds none := by
  rw [check, Call.runIn_bind, Request.messages_eq_map] at hlive ⊢
  have hcases := sendAll_cases hc hp hdepth r.parts (fun ids h => h) (Collector.ofRequest r) s
  cases hrun : (c.sendAll (Collector.ofRequest r) (r.parts.map r.message)).runIn s with
  | mk result t =>
    rw [hrun] at hlive hcases
    cases result with
    | error e =>
      rcases hcases hlive with ⟨sent, es, heq, -⟩ | ⟨⟨e', he⟩, ids, hids, hnone⟩
      · cases heq
      · obtain rfl : e = .fault e' := Except.error.inj he
        exact .inr ⟨⟨e', rfl⟩, .none_of_part hids hnone⟩
    | ok collector =>
      rcases hcases hlive with ⟨sent, es, heq, hperm, hknown, hfound⟩ | ⟨⟨e', he⟩, -⟩
      · obtain rfl : collector = collectEntries (Collector.ofRequest r) sent := Except.ok.inj heq
        have hadmits : ∀ e ∈ sent, r.Admits (e.ruleId, Draft.ofEntry e) := fun e he =>
          hfound.admits e (hperm.mem_iff.1 he)
        obtain ⟨response, hfinish, hentries, hof⟩ := finish_collectEntries hadmits
        refine .inl ⟨response, ?_, ?_, hof⟩
        · show Call.lift (collectEntries (Collector.ofRequest r) sent).finish.1 = .ok response
          rw [hfinish]
          rfl
        · rw [hentries, FindingEntry.sort_eq_of_perm hperm]
          exact .of_parts hknown hfound
      · cases he

/-- A client of a provider in the same program succeeds with a check just when a provider of the
same spec succeeds with the one message that names all rules, and both give the same findings in the
same order. The specs have no hook, the code of the rules looks at files and options only, the
message is nested no deeper than messages may be, and both calls stay live. -/
theorem check_iff_direct {q : Provider} (hc : c.transport = Transport.ofProvider p)
    (hspec : q.spec = p.spec) (hbefore : p.spec.before = none)
    (hinput : ∀ rule ∈ p.spec.rules, rule.handler.InputOnly)
    (hdepth : (CheckMessage.codec.encode (r.message r.ruleIds)).depth ≤ 127)
    (s : Session (ClientState τ)) (hlive : ((c.check r).runIn s).2.context.isLive)
    (d : CallContext) (hdirect : ((q.check (r.message r.ruleIds)).run d).2.isLive)
    (reply : CheckReply) :
    ((q.check (r.message r.ruleIds)).run d).1 = .ok reply ↔
      ∃ response, ((c.check r).runIn s).1 = .ok response ∧ response.reply = reply := by
  -- both sides give a verdict on the request, of which there is one
  have hq := q.check_verdict (hspec ▸ hbefore) r r.ids_sorted r.ids_valid d hdirect
  rw [hspec] at hq
  rcases check_verdict hc hbefore hdepth s hlive with
    ⟨response, hresult, hverdict, -⟩ | ⟨⟨e, hresult⟩, hverdict⟩
  · have hagree := hq.unique hinput hverdict
    rw [hresult]
    cases hrun : ((q.check (r.message r.ruleIds)).run d).1 with
    | error e =>
      rw [hrun] at hagree
      cases hagree
    | ok direct =>
      rw [hrun] at hagree
      have hsame : direct = response.reply := by
        cases direct
        cases response
        exact congrArg CheckReply.mk (Option.some.inj hagree)
      constructor
      · rintro ⟨rfl⟩
        exact ⟨response, rfl, hsame.symm⟩
      · rintro ⟨response', heq, rfl⟩
        cases heq
        rw [hsame]
  · have hagree := hq.unique hinput hverdict
    rw [hresult]
    cases hrun : ((q.check (r.message r.ruleIds)).run d).1 with
    | error e => simp
    | ok direct =>
      rw [hrun] at hagree
      cases hagree

end Client

/-- `Client.check_iff_direct` for a request for all rules of the crowd, which takes two messages,
and for a provider that runs them side by side when it is asked directly. Both find one thing for
each rule. -/
theorem Client.check_iff_direct_demo :
    let q : Provider := { Crowd.backwardProvider with execution := .sideBySide [0, 1, 0, 2] }
    let c : Client Unit := ofProvider Crowd.backwardProvider
    let r := Crowd.request
    let direct := (q.check (r.message r.ruleIds)).run {}
    let run := (c.check r).runIn ⟨{}, { link := () }⟩
    r.messages.length = 2 ∧ (CheckMessage.codec.encode (r.message r.ruleIds)).depth ≤ 127 ∧
    (∀ reply : CheckReply,
      direct.1 = .ok reply ↔ ∃ response, run.1 = .ok response ∧ response.reply = reply) ∧
    ∃ response, run.1 = .ok response ∧
      (response.reply.findings.map FindingEntry.ruleId).Perm r.ruleIds := by
  intro q c r direct run
  have hmessages : r.messages.length = 2 := by
    rw [Request.messages_eq_map, List.length_map, Request.length_parts, Crowd.length_ruleIds]
    decide
  have hlive : run.2.context.isLive := by
    rw [check_context (p := Crowd.backwardProvider) rfl rfl Crowd.calm_backward]
    decide
  have hdirect : direct.2.isLive := by
    rw [← Provider.check_still (p := q) rfl Crowd.calm_backward]
    decide
  have hagree := check_iff_direct (c := c) (p := Crowd.backwardProvider) (q := q) rfl rfl rfl
    Crowd.inputOnly_backward Crowd.depth_request ⟨{}, { link := () }⟩ hlive {} hdirect
  refine ⟨hmessages, Crowd.depth_request, hagree, ?_⟩
  rcases check_verdict (c := c) (p := Crowd.backwardProvider) rfl rfl Crowd.depth_request _ hlive
    with ⟨response, hresult, hfound, -⟩ | ⟨-, hnone⟩
  · have hfindings := hfound.unique Crowd.inputOnly_backward Crowd.verdict_backward
    refine ⟨response, hresult, ?_⟩
    rw [Option.some.inj hfindings]
    exact ((FindingEntry.sort_perm _).map _).trans Crowd.map_ruleId_perm
  · cases hnone.unique Crowd.inputOnly_backward Crowd.verdict_backward

end SchemaCheck
