import SchemaCheck.Client.Multi
import SchemaCheck.Proofs.Activity.Calm
import SchemaCheck.Proofs.Activity.Live

/-!
# What computations do to their context

A computation respects a relation between contexts when the context that it leaves is related to the
one that it found. Two relations matter: `CallContext.Evolves`, which all that a provider serves and
all that a client does respects, whatever the rules and the transport (`Provider.handle_evolves`,
`Client.check_respects`), so that a call that is live at its end was live throughout; and equality,
which calls respect when the rules of the provider leave the context alone
(`Provider.handle_still`).
-/

namespace SchemaCheck

variable {σ τ α β : Type} {R : CallContext → CallContext → Prop}

/-- A context that a check fails in is not live. -/
theorem CallContext.not_isLive_of_check {c : CallContext} {e : Fault} (h : c.check = .error e) :
    ¬ c.isLive := by
  rw [← check_eq_ok_iff, h]
  simp

/-! ## Providers -/

namespace Served

/-- What comes after a computation runs in the context that it leaves, unless it failed. -/
theorem run_bind (act : Served α) (next : α → Served β) (c : CallContext) :
    (act >>= next).run c = match act.run c with
      | (.ok a, d) => (next a).run d
      | (.error e, d) => (.error e, d) := by
  unfold ExceptT.run
  simp only [bind, ExceptT.bind, ExceptT.mk, StateT.bind]
  cases act c with
  | mk result d => cases result <;> rfl

/-- A value that is served leaves the context as it is. -/
@[simp] theorem run_pure (a : α) (c : CallContext) : (pure a : Served α).run c = (.ok a, c) := rfl

/-- A result that is at hand is served, and the context stays as it is. -/
@[simp] theorem run_ofResult (r : Result α) (c : CallContext) :
    (ofResult r : Served α).run c = (r, c) := rfl

/-- A look at the context serves what the context says. -/
@[simp] theorem run_check (c : CallContext) : Served.check.run c = (c.check, c) := rfl

/-- The context that the computation leaves is related to the one that it finds. -/
def Respects (R : CallContext → CallContext → Prop) (act : Served α) : Prop :=
  ∀ c : CallContext, R c (act.run c).2

section

variable (hR : CallContext.IsChange R)

include hR

/-- To serve a value respects every way to change. -/
theorem respects_pure (a : α) : (pure a : Served α).Respects R := hR.refl

/-- To serve a result that is at hand respects every way to change. -/
theorem respects_ofResult (r : Result α) : (ofResult r).Respects R := hR.refl

/-- To look at the context respects every way to change. -/
theorem respects_check : Served.check.Respects R := hR.refl

/-- A computation before others respects what all of them respect. -/
theorem Respects.bind {act : Served α} {next : α → Served β} (h : act.Respects R)
    (hn : ∀ a, (next a).Respects R) : (act >>= next).Respects R := by
  intro c
  have hc := h c
  rw [run_bind]
  cases hrun : act.run c with
  | mk result d =>
    rw [hrun] at hc
    cases result with
    | ok a => exact hR.trans hc (hn a d)
    | error e => exact hc

end

end Served

namespace Provider

open Served

/-- Only rules of the spec are selected. -/
theorem mem_of_select {p : Provider} {ids : List String} {rules : List RuleSpec}
    (h : p.select ids = .ok rules) : ∀ rule ∈ rules, rule ∈ p.spec.rules := by
  intro rule hrule
  unfold select at h
  split at h
  · cases h
    exact (List.mem_filter.1 hrule).1
  · split at h
    · cases h
      exact (List.mem_filter.1 hrule).1
    · cases h

variable (p : Provider)

/-- The run of the activities of rules, as the provider runs them. -/
def runAll (r : Request) (rules : List RuleSpec) (c : CallContext) :
    Result Unit × CallContext × Collector :=
  match p.execution with
  | .inOrder => Activity.runInOrder collect (rules.map (activity r)) c (Collector.ofRequest r)
  | .sideBySide schedule =>
    Activity.runSideBySide collect schedule (rules.map (activity r)) c (Collector.ofRequest r)

/-- What is served after a run: the response of the collector, unless a rule failed. -/
def conclude : Result Unit × CallContext × Collector → Result Response × CallContext
  | (.error e, c, _) => (.error e, c)
  | (.ok (), c, collector) => (collector.finish.1, c)

/-- To run rules is to run their activities and to conclude. -/
theorem runRules_run (r : Request) (rules : List RuleSpec) (c : CallContext) :
    (p.runRules r rules).run c = conclude (p.runAll r rules c) := by
  unfold runRules runAll
  cases p.execution <;> rfl

/-- What is concluded from a run leaves its context as it is. -/
theorem conclude_context (run : Result Unit × CallContext × Collector) :
    (conclude run).2 = run.2.1 := by
  obtain ⟨_ | _, d, collector⟩ := run <;> rfl

section

variable {p} (hR : CallContext.IsChange R) (hprepare : ∀ r, (p.prepare r).Respects R)
  (hrules : ∀ r rules, (∀ rule ∈ rules, rule ∈ p.spec.rules) → (p.runRules r rules).Respects R)

include hR hprepare hrules

/-- A check respects what the hook and the rules respect. -/
theorem check_respects (m : CheckMessage) : (p.check m).Respects R := by
  refine (respects_check hR).bind hR fun _ => (respects_ofResult hR _).bind hR fun request => ?_
  intro c
  rw [run_bind, run_ofResult]
  cases hselect : p.select request.ruleIds with
  | error e => exact hR.refl c
  | ok rules =>
    exact (hprepare request).bind hR (fun request =>
      (hrules request rules (mem_of_select hselect)).bind hR fun _ => respects_pure hR _) c

/-- Every method respects what the hook and the rules respect. -/
theorem handle_respects (m : Method) (request : Bytes) : (p.handle m request).Respects R := by
  have hpure : ∀ {α : Type} (a : α), (pure a : Served α).Respects R := respects_pure hR
  have hresult : ∀ {α : Type} (r : Result α), (ofResult r).Respects R := respects_ofResult hR
  cases m with
  | check =>
    exact (hresult _).bind hR fun m =>
      (check_respects hR hprepare hrules m).bind hR fun _ => hpure _
  | listRules =>
    exact (hresult _).bind hR fun m =>
      ((respects_check hR).bind hR fun _ => hresult _).bind hR fun _ => hpure _
  | listCategories =>
    exact (hresult _).bind hR fun m =>
      ((respects_check hR).bind hR fun _ => hresult _).bind hR fun _ => hpure _

end

/-- A hook lets the context evolve as any activity does. -/
theorem prepare_evolves (r : Request) : (p.prepare r).Respects CallContext.Evolves := by
  unfold prepare
  cases p.spec.before with
  | none => exact respects_pure CallContext.evolves_isChange r
  | some hook => exact fun c => Activity.run_evolves _ (hook r) c ()

/-- Running rules keeps what each rule keeps, in whatever order they take their steps. -/
theorem runRules_respects (hR : CallContext.IsChange R) (r : Request) {rules : List RuleSpec}
    (h : ∀ rule ∈ rules, (rule.handler rule.id r).Keeps R) : (p.runRules r rules).Respects R := by
  have hkeeps : ∀ a ∈ rules.map (activity r), a.2.Keeps R := by
    intro a ha
    obtain ⟨rule, hrule, rfl⟩ := List.mem_map.1 ha
    exact Activity.keeps_check.bind fun _ => h rule hrule
  intro c
  rw [runRules_run, conclude_context, runAll]
  cases p.execution with
  | inOrder => exact Activity.runInOrder_keeps hR collect hkeeps c _
  | sideBySide schedule => exact Activity.runSideBySide_keeps hR collect schedule hkeeps c _

/-- Rules let the context evolve. -/
theorem runRules_evolves (r : Request) (rules : List RuleSpec) :
    (p.runRules r rules).Respects CallContext.Evolves :=
  p.runRules_respects CallContext.evolves_isChange r fun _ _ => Activity.keeps_evolves _

/-- A check lets the context evolve. -/
theorem check_evolves (m : CheckMessage) : (p.check m).Respects CallContext.Evolves :=
  check_respects CallContext.evolves_isChange p.prepare_evolves (fun r rules _ =>
    p.runRules_evolves r rules) m

/-- A provider lets the context of a call evolve. -/
theorem handle_evolves (m : Method) (request : Bytes) :
    (p.handle m request).Respects CallContext.Evolves :=
  handle_respects CallContext.evolves_isChange p.prepare_evolves (fun r rules _ =>
    p.runRules_evolves r rules) m request

end Provider

/-- The code of a rule leaves the context alone. -/
def Handler.Calm (h : Handler) : Prop := ∀ id r, (h id r).Calm

namespace Provider

open Served

variable {p : Provider}

/-- Rules that leave the context alone do so together. -/
theorem runRules_still {rules : List RuleSpec} (h : ∀ rule ∈ rules, rule.handler.Calm)
    (r : Request) : (p.runRules r rules).Respects Eq :=
  p.runRules_respects CallContext.eq_isChange r fun rule hrule => (h rule hrule rule.id r).keeps

section

variable (hbefore : p.spec.before = none) (hcalm : ∀ rule ∈ p.spec.rules, rule.handler.Calm)

include hbefore

/-- Without a hook, a request is taken as it is. -/
theorem prepare_still (r : Request) : (p.prepare r).Respects Eq := by
  rw [prepare, hbefore]
  exact respects_pure CallContext.eq_isChange r

include hcalm

/-- Without a hook, a check leaves the context alone when all rules do. -/
theorem check_still (m : CheckMessage) : (p.check m).Respects Eq :=
  check_respects CallContext.eq_isChange (prepare_still hbefore) (fun r _ h =>
    runRules_still (fun rule hrule => hcalm rule (h rule hrule)) r) m

/-- Without a hook, a provider leaves the context alone when all rules do. -/
theorem handle_still (m : Method) (request : Bytes) : (p.handle m request).Respects Eq :=
  handle_respects CallContext.eq_isChange (prepare_still hbefore) (fun r _ h =>
    runRules_still (fun rule hrule => hcalm rule (h rule hrule)) r) m request

end

end Provider

/-! ## Callers -/

namespace Call

/-- The context that the computation leaves is related to the one that it finds. -/
def Respects (R : CallContext → CallContext → Prop) (act : Call σ α) : Prop :=
  ∀ s : Session σ, R s.context (act.runIn s).2.context

/-- A computation on a part of the state sees the same context. -/
theorem Respects.within {act : Call β α} (slot : Slot σ β) (h : act.Respects R) :
    (act.within slot).Respects R := fun s => h ⟨s.context, slot.get s.state⟩

section

variable (hR : CallContext.IsChange R)

include hR

/-- To give a value respects every way to change. -/
theorem respects_pure (a : α) : (pure a : Call σ α).Respects R := fun s => hR.refl s.context

/-- To give a result that is at hand respects every way to change. -/
theorem respects_ofResult (r : Result α) : (ofResult r : Call σ α).Respects R :=
  fun s => hR.refl s.context

/-- To fail respects every way to change. -/
theorem respects_fail (e : Fault) : (fail e : Call σ α).Respects R := fun s => hR.refl s.context

/-- To look at the context respects every way to change. -/
theorem respects_check : (Call.check : Call σ Unit).Respects R := fun s => hR.refl s.context

/-- To give up respects every way to change. -/
theorem respects_giveUp : (Call.giveUp : Call σ α).Respects R := fun s => hR.refl s.context

/-- A computation before others respects what all of them respect. -/
theorem Respects.bind {act : Call σ α} {next : α → Call σ β} (h : act.Respects R)
    (hn : ∀ a, (next a).Respects R) : (act >>= next).Respects R := by
  intro s
  have hs := h s
  rw [runIn_bind]
  cases hrun : act.runIn s with
  | mk result t =>
    rw [hrun] at hs
    cases result with
    | ok a => exact hR.trans hs (hn a t)
    | error e => exact hs

end

end Call

/-- A transport respects a relation when all its answers do. -/
def Transport.Respects (R : CallContext → CallContext → Prop) (t : Transport σ) : Prop :=
  ∀ m request c s, R c ((t m request c s).after c)

/-- A transport has no other hold on the context. -/
theorem Transport.evolves (t : Transport σ) : t.Respects CallContext.Evolves :=
  fun _ _ c _ => Answer.evolves_after _ c

/-- A context that evolved is the one after an answer that says how. -/
theorem Answer.after_eq {c d : CallContext} (h : c.Evolves d) (result : Result Bytes) (state : σ) :
    (Answer.mk result state d.cancelled (d.now - c.now)).after c = d := by
  obtain ⟨hdeadline, hnow⟩ : d.deadline = c.deadline ∧ c.now + (d.now - c.now) = d.now :=
    ⟨h.deadline, Nat.add_sub_cancel' h.now⟩
  have hcancelled := h.cancelled
  obtain ⟨cancelled, deadline, now⟩ := d
  unfold Answer.after CallContext.elapse CallContext.cancel
  simp only at hdeadline hnow hcancelled ⊢
  rw [hnow, ← hdeadline]
  cases cancelled with
  | true => rfl
  | false => simpa using hcancelled

/-- The way to a provider in the same program respects what the provider respects. -/
theorem Transport.ofProvider_respects {p : Provider} (hR : CallContext.IsChange R)
    (h : ∀ m request, (p.handle m request).Respects R) :
    (Transport.ofProvider p : Transport σ).Respects R := by
  intro m request c s
  unfold Transport.ofProvider
  cases c.check with
  | error e => exact hR.refl c
  | ok u =>
    have hchange := h m request c
    have hevolves := p.handle_evolves m request c
    cases hrun : (p.handle m request).run c with
    | mk result d =>
      rw [hrun] at hchange hevolves
      simp only [Answer.after_eq hevolves]
      exact hchange

namespace Client

open Call

variable {c : Client τ} (hR : CallContext.IsChange R) (ht : c.transport.Respects R)

include hR ht

/-- To ask respects what the transport does. -/
theorem ask_respects (m : Method) (request : Codec α) (reply : Codec β) (message : α) :
    (c.ask m request reply message).Respects R := by
  have hsend : (c.transport.send m (request.toBytes message)).Respects R :=
    fun s => ht m _ s.context s.state
  exact (respects_check hR).bind hR fun _ => (hsend.within _).bind hR fun _ =>
    respects_ofResult hR _

omit ht in
/-- To drain pages respects what it does to fetch one, however many there are. -/
theorem drain_respects {fetch : String → Call σ (PageReply α)}
    (h : ∀ token, (fetch token).Respects R) (pages : Nat) (token : String) :
    (drain fetch pages token).Respects R := by
  induction pages generalizing token with
  | zero => exact respects_giveUp hR
  | succ n ih =>
    refine (h token).bind hR fun page => ?_
    split
    · exact respects_pure hR _
    · exact (ih _).bind hR fun _ => respects_pure hR _

omit ht in
/-- To remember a listing respects what it does to fetch it, and a listing that is remembered
touches nothing. -/
theorem cached_respects (slot : Slot (ClientState τ) (Option (Result (List α))))
    {fetch : Call (ClientState τ) (List α)} (h : fetch.Respects R) :
    (c.cached slot fetch).Respects R := by
  intro s
  have hs := h s
  unfold cached
  split
  · exact hs
  rw [runIn_mk]
  split
  · exact hR.refl s.context
  split
  · next as t hrun =>
    rw [hrun] at hs
    exact hs
  · next e t hrun =>
    rw [hrun] at hs
    split <;> exact hs
  · next t hrun =>
    rw [hrun] at hs
    exact hs

/-- To list categories respects what the transport does. -/
theorem listCategories_respects : c.listCategories.Respects R :=
  cached_respects hR _ <|
    (drain_respects hR (fun _ => ask_respects hR ht _ _ _ _) _ _).bind hR fun _ =>
      respects_ofResult hR _

/-- To list rules respects what the transport does, though it lists the categories as well. -/
theorem listRules_respects : c.listRules.Respects R :=
  cached_respects hR _ <|
    (drain_respects hR (fun _ => ask_respects hR ht _ _ _ _) _ _).bind hR fun _ =>
      (listCategories_respects hR ht).bind hR fun _ => respects_ofResult hR _

/-- To send messages respects what the transport does, however many there are. -/
theorem sendAll_respects (collector : Collector) (messages : List CheckMessage) :
    (c.sendAll collector messages).Respects R := by
  induction messages generalizing collector with
  | nil => exact respects_pure hR _
  | cons m messages ih => exact (ask_respects hR ht _ _ _ m).bind hR fun reply => ih _

/-- A check by a client respects what its transport does. -/
theorem check_respects (r : Request) : (c.check r).Respects R :=
  (sendAll_respects hR ht _ _).bind hR fun _ => respects_ofResult hR _

end Client

namespace CheckClient

open Call

/-- All that a client offers respects a relation. -/
structure Respects (R : CallContext → CallContext → Prop) (d : CheckClient σ) : Prop where
  check : ∀ r, (d.check r).Respects R
  listRules : d.listRules.Respects R
  listCategories : d.listCategories.Respects R

/-- A client on a part of the state sees the same context. -/
theorem Respects.within {d : CheckClient β} (slot : Slot σ β) (h : d.Respects R) :
    (d.within slot).Respects R :=
  ⟨fun r => (h.check r).within slot, h.listRules.within slot, h.listCategories.within slot⟩

/-- All that a client of one provider offers respects what its transport does. -/
theorem checkClient_respects {c : Client τ} (hR : CallContext.IsChange R)
    (ht : c.transport.Respects R) : c.checkClient.Respects R :=
  ⟨Client.check_respects hR ht, Client.listRules_respects hR ht,
    Client.listCategories_respects hR ht⟩

variable {ds : List (CheckClient σ)} (hR : CallContext.IsChange R)
  (hds : ∀ d ∈ ds, d.Respects R)

include hR

/-- To ask clients one after another respects what it does to ask each. -/
theorem listEach_respects {list : CheckClient σ → Call σ (List α)}
    (h : ∀ d ∈ ds, (list d).Respects R) : (listEach list ds).Respects R := by
  induction ds with
  | nil => exact respects_pure hR _
  | cons d ds ih =>
    have hrest := ih fun d hd => h d (List.mem_cons_of_mem _ hd)
    exact (respects_check hR).bind hR fun _ => (h d List.mem_cons_self).bind hR fun _ =>
      hrest.bind hR fun _ => respects_pure hR _

/-- To check shares of a request one after another respects what each client does. -/
theorem checkShares_respects (r : Request) {entries : List (CheckClient σ × List Rule)}
    (h : ∀ e ∈ entries, e.1.Respects R) : (checkShares r entries).Respects R := by
  induction entries with
  | nil => exact respects_pure hR _
  | cons e entries ih =>
    have hrest := ih fun e he => h e (List.mem_cons_of_mem _ he)
    rw [checkShares]
    split
    · exact hrest
    · exact (respects_check hR).bind hR fun _ => (respects_ofResult hR _).bind hR fun request =>
        ((h e List.mem_cons_self).check request).bind hR fun _ =>
          hrest.bind hR fun _ => respects_pure hR _

include hds

/-- A check among several clients respects what each does: the listings, and then the shares. -/
theorem checkAmong_respects (r : Request) : (checkAmong ds r).Respects R := by
  refine (listEach_respects hR fun d hd => (hds d hd).listRules).bind hR fun lists => ?_
  refine (respects_ofResult hR _).bind hR fun all => ?_
  split
  · refine (checkShares_respects hR r fun e he => ?_).bind hR fun _ => respects_pure hR _
    exact hds e.1 (List.of_mem_zip he).1
  · exact respects_fail hR _

/-- Several clients together respect what each does. -/
theorem multi_respects : (multi ds).Respects R := by
  match ds with
  | [] =>
    exact ⟨fun _ => respects_pure hR _, respects_pure hR _,
      (respects_pure hR _).bind hR fun _ => respects_ofResult hR _⟩
  | [d] =>
    have hd := hds d List.mem_cons_self
    exact ⟨hd.check, hd.listRules, hd.listCategories⟩
  | d :: e :: rest =>
    exact ⟨fun r => checkAmong_respects hR hds r,
      (listEach_respects hR fun d hd => (hds d hd).listRules).bind hR fun _ =>
        respects_ofResult hR _,
      (listEach_respects hR fun d hd => (hds d hd).listCategories).bind hR fun _ =>
        respects_ofResult hR _⟩

end CheckClient

end SchemaCheck
