import SchemaCheck.Proofs.Client.Listing

/-!
# Clients that serve a spec

A client serves a spec when it lists what the spec declares and answers checks by the verdicts on
the spec (`CheckClient.Serves`). It may do so only in sessions of some kind, which it then leaves as
sessions of that kind. A client of a provider in the same program serves the spec of the provider
(`Client.serves`), also as one of several clients (`CheckClient.Serves.within`). Two clients that
serve one spec cannot be told apart, when the code of the rules looks at files and options only
(`Spec.Answered.eq_ok_iff`).
-/

namespace SchemaCheck

variable {σ τ α β : Type}

/-! ## What a check does to the state -/

namespace Client

open Call

/-- A computation leaves what a client remembers alone. -/
def KeepsCache (act : Call (ClientState τ) α) : Prop :=
  ∀ s, (act.runIn s).2.state.cache = s.state.cache

/-- Computations that remember nothing do so one after another. -/
theorem KeepsCache.bind {act : Call (ClientState τ) α} {next : α → Call (ClientState τ) β}
    (h : KeepsCache act) (hn : ∀ a, KeepsCache (next a)) : KeepsCache (act >>= next) := by
  intro s
  have hs := h s
  rw [runIn_bind]
  cases hrun : act.runIn s with
  | mk result t =>
    rw [hrun] at hs
    cases result with
    | ok a => exact (hn a t).trans hs
    | error e => exact hs

variable (c : Client τ)

/-- To ask remembers nothing. -/
theorem ask_keepsCache (m : Method) (request : Codec α) (reply : Codec β) (message : α) :
    KeepsCache (c.ask m request reply message) :=
  KeepsCache.bind (fun _ => rfl) fun _ => KeepsCache.bind (fun _ => rfl) fun _ _ => rfl

/-- To send messages remembers nothing. -/
theorem sendAll_keepsCache (collector : Collector) (messages : List CheckMessage) :
    KeepsCache (c.sendAll collector messages) := by
  induction messages generalizing collector with
  | nil => exact fun _ => rfl
  | cons m messages ih => exact (c.ask_keepsCache _ _ _ m).bind fun reply => ih _

/-- A check leaves what the client remembers alone. -/
theorem check_keepsCache (r : Request) : KeepsCache (c.check r) :=
  (c.sendAll_keepsCache _ _).bind fun _ _ => rfl

end Client

/-! ## Answers -/

/-- What a check may come to on a spec: a response with the findings of the verdict, or a fault when
there is none. -/
inductive Spec.Answered (spec : Spec) (r : Request) : Except Stop Response → Prop where
  | response {response : Response} : spec.Verdict r r.ruleIds (some response.reply.findings) →
      (∀ f ∈ response.findings, f.IsOf r) → Answered spec r (.ok response)
  | fault {e : Fault} : spec.Verdict r r.ruleIds none → Answered spec r (.error (.fault e))

/-- A check comes to one response at most, and to no fault if it comes to a response. -/
theorem Spec.Answered.eq_ok_iff {spec : Spec} {r : Request}
    (hinput : ∀ rule ∈ spec.rules, rule.handler.InputOnly) {a b : Except Stop Response}
    (ha : spec.Answered r a) (hb : spec.Answered r b) (response : Response) :
    a = .ok response ↔ b = .ok response := by
  cases ha with
  | @response first hfirst hof =>
    cases hb with
    | @response second hsecond hof' =>
      have hfindings := Option.some.inj (hfirst.unique hinput hsecond)
      have hsame : first = second :=
        Response.eq_of_reply_eq hof hof' (congrArg CheckReply.mk hfindings)
      rw [hsame]
    | fault hnone => cases hfirst.unique hinput hnone
  | fault hnone =>
    cases hb with
    | response hfound _ => cases hnone.unique hinput hfound
    | fault _ => simp

/-! ## Serving -/

/-- In sessions of some kind, a client lists what a spec declares and answers checks by the verdicts
on the spec, as long as the call goes on, and leaves a session of that kind. -/
structure CheckClient.Serves (P : Session σ → Prop) (spec : Spec) (d : CheckClient σ) : Prop where
  listRules : d.listRules.Gives P spec.listedRules
  listCategories : d.listCategories.Gives P spec.listedCategories
  check : ∀ (r : Request) (s : Session σ),
    (CheckMessage.codec.encode (r.message r.ruleIds)).depth ≤ 127 → P s →
      ((d.check r).runIn s).2.context.isLive →
        spec.Answered r ((d.check r).runIn s).1 ∧ P ((d.check r).runIn s).2
  evolves : d.Respects CallContext.Evolves

/-- A client that is one of several serves what it serves alone, given where its own state is. -/
theorem CheckClient.Serves.within {P : Session β → Prop} {Q : Session σ → Prop} {spec : Spec}
    {d : CheckClient β} (h : d.Serves P spec) {slot : Slot σ β}
    (hget : ∀ s, Q s → P ⟨s.context, slot.get s.state⟩)
    (hput : ∀ s t, Q s → P t → Q ⟨t.context, slot.put t.state s.state⟩) :
    (d.within slot).Serves Q spec where
  listRules := h.listRules.within hget hput
  listCategories := h.listCategories.within hget hput
  check r s hdepth hs hlive := by
    obtain ⟨hanswered, ht⟩ := h.check r ⟨s.context, slot.get s.state⟩ hdepth (hget s hs) hlive
    exact ⟨hanswered, hput s _ hs ht⟩
  evolves := h.evolves.within slot

/-- A client of a provider in the same program serves the spec of the provider. -/
theorem Client.serves {p : Provider} {c : Client τ} (hc : c.IsLocal p)
    (hbefore : p.spec.before = none) :
    c.checkClient.Serves (ClientState.Ready p.spec) p.spec where
  listRules := listRules_gives hc
  listCategories := listCategories_gives hc
  check r s hdepth hs hlive := by
    have hready : ClientState.Ready p.spec ((c.check r).runIn s).2 := by
      refine ⟨hlive, ?_⟩
      rw [c.check_keepsCache r s]
      exact hs.fits
    rcases check_verdict hc.transport hbefore hdepth s hlive with
      ⟨response, hrun, hverdict, hof⟩ | ⟨⟨e, hrun⟩, hverdict⟩
    · refine ⟨?_, hready⟩
      show p.spec.Answered r ((c.check r).runIn s).1
      rw [hrun]
      exact .response hverdict hof
    · refine ⟨?_, hready⟩
      show p.spec.Answered r ((c.check r).runIn s).1
      rw [hrun]
      exact .fault hverdict
  evolves := CheckClient.checkClient_respects CallContext.evolves_isChange c.transport.evolves

end SchemaCheck
