import SchemaCheck.Proofs.Client.Agreement

/-!
# Logs of calls

A transport may keep a log of its calls, each with the context in which it starts and the one that
it leaves (`Transport.logged`). To keep a log changes nothing else (`Call.Makes`). In the log, each
call starts in a live context, and in the one that the call before it left (`CallsLead`). So it is
for all that clients do: the property is closed under what a client is made of, and holds of every
question (`Client.logs_respond`), also when the client is one of several (`Call.Logs.within`).
-/

namespace SchemaCheck

/-- A call over a transport: what was asked and what came back, with the contexts in which it
started and ended. -/
structure LoggedCall where
  method : Method
  request : Bytes
  before : CallContext
  result : Result Bytes
  after : CallContext
  /-- The provider that was asked, if it is known to be one in the same program. -/
  provider : Option Provider := none

/-- A call as it can be: it starts in a live context, has no hold on the context but what calls may
do, and what comes back is what the provider serves, if there is one in the same program. -/
structure LoggedCall.Proper (call : LoggedCall) : Prop where
  live : call.before.isLive
  evolves : call.before.Evolves call.after
  served : ∀ p, call.provider = some p →
    (p.handle call.method call.request).run call.before = (call.result, call.after)

/-- From the first context calls lead to the last, each from where the one before it ended. -/
inductive CallsLead : CallContext → List LoggedCall → CallContext → Prop where
  | nil (c : CallContext) : CallsLead c [] c
  | cons {call : LoggedCall} {calls : List LoggedCall} {d : CallContext} :
      call.Proper → CallsLead call.after calls d → CallsLead call.before (call :: calls) d

namespace CallsLead

variable {c d d' : CallContext} {calls calls' : List LoggedCall}

/-- One call leads from its start to its end. -/
theorem single {call : LoggedCall} (h : call.Proper) : CallsLead call.before [call] call.after :=
  .cons h (.nil _)

/-- Calls that start where others ended go on from there. -/
theorem append (h : CallsLead c calls d) (h' : CallsLead d calls' d') :
    CallsLead c (calls ++ calls') d' := by
  induction h with
  | nil => exact h'
  | cons hcall _ ih => exact .cons hcall (ih h')

/-- From a context that is not live no calls lead anywhere. -/
theorem eq_nil (h : CallsLead c calls d) (hc : ¬ c.isLive) : calls = [] := by
  cases h with
  | nil => rfl
  | cons hcall _ => exact absurd hcall.live hc

/-- Calls that lead from one context to another are all as calls can be. -/
theorem proper (h : CallsLead c calls d) : ∀ call ∈ calls, call.Proper := by
  induction h with
  | nil => exact fun _ h => absurd h List.not_mem_nil
  | cons hcall _ ih => exact List.forall_mem_cons.2 ⟨hcall, ih⟩

/-- A call that leaves a context that is not live is the last. -/
theorem eq_nil_of_after {xs ys : List LoggedCall} {call : LoggedCall}
    (h : CallsLead c (xs ++ call :: ys) d) (hafter : ¬ call.after.isLive) : ys = [] := by
  induction xs generalizing c with
  | nil =>
    cases h with
    | cons _ hrest => exact hrest.eq_nil hafter
  | cons _ xs ih =>
    cases h with
    | cons _ hrest => exact ih hrest

end CallsLead

/-! ## Keeping a log -/

/-- What a log says of a call. -/
def Transport.entry {τ : Type} (t : Transport τ) (provider : Option Provider) (m : Method)
    (request : Bytes) (context : CallContext) (s : τ) : LoggedCall :=
  let a := t m request context s
  ⟨m, request, context, a.result, a.after context, provider⟩

/-- A transport that also keeps a log of its calls. -/
def Transport.logged {τ : Type} (t : Transport τ) (provider : Option Provider) :
    Transport (τ × List LoggedCall) :=
  fun m request context s =>
    let a := t m request context s.1
    { result := a.result, state := (a.state, s.2 ++ [t.entry provider m request context s.1])
      cancels := a.cancels, time := a.time }

/-- The transport leads to the provider, if there is one. -/
def Transport.LeadsTo {τ : Type} (t : Transport τ) (provider : Option Provider) : Prop :=
  ∀ p, provider = some p → t = Transport.ofProvider p

/-- A client over the transport that keeps a log. -/
def Client.logged {τ : Type} (c : Client τ) (provider : Option Provider) :
    Client (τ × List LoggedCall) :=
  { transport := c.transport.logged provider, options := c.options, maxPages := c.maxPages }

/-- The state of a client, with a log for its transport. -/
def ClientState.withLog {τ : Type} (s : ClientState τ) (log : List LoggedCall) :
    ClientState (τ × List LoggedCall) :=
  ⟨s.cache, (s.link, log)⟩

/-- What a transport to a provider answers in a live context is what the provider serves. -/
theorem Transport.LeadsTo.proper {τ : Type} {t : Transport τ} {provider : Option Provider}
    (ht : t.LeadsTo provider) (m : Method) (request : Bytes) {c : CallContext} (hc : c.isLive)
    (s : τ) : (t.entry provider m request c s).Proper := by
  refine ⟨hc, Answer.evolves_after _ c, fun p hp => ?_⟩
  rw [ht p hp]
  simp only [entry, ofProvider, (CallContext.check_eq_ok_iff _).2 hc]
  have hevolves := p.handle_evolves m request c
  cases hrun : (p.handle m request).run c with
  | mk result d =>
    rw [hrun] at hevolves
    simp only [Answer.after_eq hevolves]

namespace Call

variable {σ ρ α β : Type} {put : σ → List LoggedCall → ρ}

/-- A computation makes calls in a session: they lead to the context that it leaves, and are all
answered if it has a result. The same computation with a log in its state comes to the same, with
these calls at the end of the log. -/
structure Makes (put : σ → List LoggedCall → ρ) (act : Call σ α) (act' : Call ρ α) (s : Session σ)
    (calls : List LoggedCall) : Prop where
  lead : CallsLead s.context calls (act.runIn s).2.context
  answered : ∀ a, (act.runIn s).1 = .ok a → ∀ call ∈ calls, ∃ reply, call.result = .ok reply
  logged : ∀ log, act'.runIn ⟨s.context, put s.state log⟩ = ((act.runIn s).1,
    ⟨(act.runIn s).2.context, put (act.runIn s).2.state (log ++ calls)⟩)

/-- A computation and the one with a log: in every session, some calls are made and logged. -/
def Logs (put : σ → List LoggedCall → ρ) (act : Call σ α) (act' : Call ρ α) : Prop :=
  ∀ s, ∃ calls, Makes put act act' s calls

/-- A computation that makes no calls. -/
theorem logs_of_still {act : Call σ α} {act' : Call ρ α}
    (hcontext : ∀ s, (act.runIn s).2.context = s.context)
    (hrun : ∀ s log, act'.runIn ⟨s.context, put s.state log⟩
      = ((act.runIn s).1, ⟨s.context, put (act.runIn s).2.state log⟩)) : Logs put act act' := by
  refine fun s => ⟨[], ?_, fun _ _ _ h => absurd h List.not_mem_nil, fun log => ?_⟩
  · rw [hcontext]
    exact .nil _
  · rw [hrun, hcontext, List.append_nil]

/-- To give a value makes no calls. -/
theorem logs_pure (a : α) : Logs put (pure a) (pure a) :=
  logs_of_still (fun _ => rfl) fun _ _ => rfl

/-- To give a result that is at hand makes no calls. -/
theorem logs_ofResult (r : Result α) : Logs put (ofResult r) (ofResult r) :=
  logs_of_still (fun _ => rfl) fun _ _ => rfl

/-- To fail makes no calls. -/
theorem logs_fail (e : Fault) : Logs put (fail e : Call σ α) (fail e) :=
  logs_of_still (fun _ => rfl) fun _ _ => rfl

/-- To give up makes no calls. -/
theorem logs_giveUp : Logs put (giveUp : Call σ α) giveUp :=
  logs_of_still (fun _ => rfl) fun _ _ => rfl

/-- To look at the context makes no calls. -/
theorem logs_check : Logs put check check :=
  logs_of_still (fun _ => rfl) fun _ _ => rfl

/-- Two computations make the calls of the first and then those of the second, which are none when
the first has stopped. -/
theorem Logs.bind {act : Call σ α} {act' : Call ρ α} {next : α → Call σ β} {next' : α → Call ρ β}
    (h : Logs put act act') (hn : ∀ a, Logs put (next a) (next' a)) :
    Logs put (act >>= next) (act' >>= next') := by
  intro s
  obtain ⟨calls, hmakes⟩ := h s
  have hlead := hmakes.lead
  have hanswered := hmakes.answered
  have hlogged := hmakes.logged
  cases hrun : act.runIn s with
  | mk result t =>
    rw [hrun] at hlead hanswered
    simp only [hrun] at hlogged
    cases result with
    -- the second computation is not run, and its calls are not made
    | error e =>
      have hbind : (act >>= next).runIn s = (.error e, t) := by rw [runIn_bind, hrun]
      refine ⟨calls, ?_, ?_, fun log => ?_⟩
      · rw [hbind]
        exact hlead
      · rw [hbind]
        exact fun _ h => nomatch h
      · rw [hbind, runIn_bind, hlogged]
    | ok a =>
      obtain ⟨calls', hmakes'⟩ := hn a t
      have hbind : (act >>= next).runIn s = (next a).runIn t := by rw [runIn_bind, hrun]
      refine ⟨calls ++ calls', ?_, fun b hb call hcall => ?_, fun log => ?_⟩
      · rw [hbind]
        exact hlead.append hmakes'.lead
      · rw [hbind] at hb
        rcases List.mem_append.1 hcall with hcall | hcall
        · exact hanswered a rfl call hcall
        · exact hmakes'.answered b hb call hcall
      · rw [hbind, runIn_bind, hlogged]
        exact (hmakes'.logged _).trans (by rw [List.append_assoc])

end Call

/-! ## Clients -/

namespace Client

open Call

variable {τ α β : Type} {c : Client τ} {provider : Option Provider}

/-- To ask over the transport that keeps a log is to ask, and to log the call. -/
theorem ask_logged {m : Method} {request : Codec α} {reply : Codec β} {message : α}
    {s : Session (ClientState τ)} (hlive : s.context.isLive) (log : List LoggedCall) :
    let a := c.transport m (request.toBytes message) s.context s.state.link
    ((c.logged provider).ask m request reply message).runIn ⟨s.context, s.state.withLog log⟩
      = (lift (a.result >>= reply.ofBytes), ⟨a.after s.context,
        ⟨s.state.cache, (a.state, log ++ [c.transport.entry provider m (request.toBytes message)
          s.context s.state.link])⟩⟩) :=
  ask_runIn (c := c.logged provider) (s := ⟨s.context, s.state.withLog log⟩) hlive

variable (hp : c.transport.LeadsTo provider)

include hp

/-- To ask makes one call in a live context, which is logged, and none in a context that is over. -/
theorem logs_ask (m : Method) (request : Codec α) (reply : Codec β) (message : α) :
    Logs ClientState.withLog (c.ask m request reply message)
      ((c.logged provider).ask m request reply message) := by
  intro s
  cases hcheck : s.context.check with
  | error e =>
    refine ⟨[], ?_, fun _ _ _ h => absurd h List.not_mem_nil, fun log => ?_⟩
    · rw [ask_of_not_live hcheck]
      exact .nil _
    · rw [ask_of_not_live hcheck, List.append_nil]
      exact ask_of_not_live hcheck
  | ok u =>
    have hlive := (CallContext.check_eq_ok_iff _).1 hcheck
    refine ⟨[c.transport.entry provider m (request.toBytes message) s.context s.state.link], ?_,
      fun b hb => ?_, fun log => ?_⟩
    · rw [ask_runIn hlive]
      exact .single (hp.proper m _ hlive _)
    · rw [ask_runIn hlive] at hb
      obtain ⟨bytes, hbytes, -⟩ := exists_of_bind_eq_ok (lift_eq_ok_iff.1 hb)
      exact List.forall_mem_singleton.2 ⟨bytes, hbytes⟩
    · rw [ask_logged hlive, ask_runIn hlive]
      rfl

omit hp in
/-- To drain pages logs what it takes to fetch each. -/
theorem logs_drain {fetch : String → Call (ClientState τ) (PageReply α)}
    {fetch' : String → Call (ClientState (τ × List LoggedCall)) (PageReply α)}
    (h : ∀ token, Logs ClientState.withLog (fetch token) (fetch' token)) (pages : Nat)
    (token : String) :
    Logs ClientState.withLog (drain fetch pages token) (drain fetch' pages token) := by
  induction pages generalizing token with
  | zero => exact logs_giveUp
  | succ n ih =>
    refine (h token).bind fun page => ?_
    split
    · exact logs_pure _
    · exact (ih _).bind fun _ => logs_pure _

omit hp in
/-- To remember what came of a listing leaves the log alone. -/
theorem kept_withLog (options : ClientOptions) (ℓ : Listing α)
    (run : Except Stop (List α) × Session (ClientState τ)) (log : List LoggedCall) :
    kept options ℓ (run.1, ⟨run.2.context, run.2.state.withLog log⟩)
      = ((kept options ℓ run).1,
        ⟨(kept options ℓ run).2.context, (kept options ℓ run).2.state.withLog log⟩) := by
  obtain ⟨(e | _) | as, t⟩ := run
  · simp only [kept]
    cases options.retryFailed with
    | true => rfl
    | false => cases ℓ <;> rfl
  · rfl
  · cases ℓ <;> rfl

omit hp in
/-- What is given when nothing was remembered is what was fetched. -/
theorem eq_ok_of_kept {options : ClientOptions} {ℓ : Listing α}
    {run : Except Stop (List α) × Session (ClientState τ)} {as : List α}
    (h : (kept options ℓ run).1 = .ok as) : run.1 = .ok as := by
  obtain ⟨(e | _) | as', t⟩ := run
  · simp only [kept] at h
    split at h <;> cases h
  · cases h
  · exact h

omit hp in
/-- A listing makes the calls that fetching it makes, or none when it is remembered. -/
theorem logs_list {ℓ : Listing α}
    (h : Logs ClientState.withLog (c.fetch ℓ) ((c.logged provider).fetch ℓ)) :
    Logs ClientState.withLog (c.list ℓ) ((c.logged provider).list ℓ) := by
  cases hcache : c.options.cache with
  | false =>
    rwa [list_eq_fetch hcache, list_eq_fetch (c := c.logged provider) hcache]
  | true =>
    intro s
    have hslot : ∀ log, ℓ.slot.get (s.state.withLog log) = ℓ.slot.get s.state := by
      cases ℓ <;> exact fun _ => rfl
    cases hget : ℓ.slot.get s.state with
    | some entry =>
      have hrun := list_of_get hcache hget
      refine ⟨[], ?_, fun _ _ _ h => absurd h List.not_mem_nil, fun log => ?_⟩
      · rw [hrun]
        exact .nil _
      · rw [hrun, list_of_get (c := c.logged provider) hcache ((hslot log).trans hget),
          List.append_nil]
    | none =>
      have hrun := list_of_none hcache hget
      obtain ⟨calls, hmakes⟩ := h s
      refine ⟨calls, ?_, fun as has => ?_, fun log => ?_⟩
      · rw [hrun, context_kept]
        exact hmakes.lead
      · rw [hrun] at has
        exact hmakes.answered as (eq_ok_of_kept has)
      · rw [hrun, list_of_none (c := c.logged provider) hcache ((hslot log).trans hget),
          hmakes.logged]
        exact kept_withLog c.options ℓ _ _

/-- The fetching of categories logs the calls for their pages. -/
theorem logs_fetchCategories :
    Logs ClientState.withLog c.fetchCategories (c.logged provider).fetchCategories :=
  (logs_drain (fun _ => logs_ask hp _ _ _ _) _ _).bind fun _ => logs_ofResult _

/-- The fetching of rules logs the calls for their pages and those for the categories. -/
theorem logs_fetchRules : Logs ClientState.withLog c.fetchRules (c.logged provider).fetchRules :=
  (logs_drain (fun _ => logs_ask hp _ _ _ _) _ _).bind fun _ =>
    (logs_list (ℓ := .categories) (logs_fetchCategories hp)).bind fun _ => logs_ofResult _

/-- To send messages logs the calls for them, up to the first that fails. -/
theorem logs_sendAll (collector : Collector) (messages : List CheckMessage) :
    Logs ClientState.withLog (c.sendAll collector messages)
      ((c.logged provider).sendAll collector messages) := by
  induction messages generalizing collector with
  | nil => exact logs_pure _
  | cons m messages ih => exact (logs_ask hp _ _ _ m).bind fun reply => ih _

/-- A client that is asked anything makes calls, each in a live context, and logs them. -/
theorem logs_respond (q : Question) :
    Logs ClientState.withLog (c.respond q) ((c.logged provider).respond q) :=
  match q with
  | .rules => logs_list (ℓ := .rules) (logs_fetchRules hp)
  | .categories => logs_list (ℓ := .categories) (logs_fetchCategories hp)
  | .check _ => (logs_sendAll hp _ _).bind fun _ => logs_ofResult _

end Client

end SchemaCheck
