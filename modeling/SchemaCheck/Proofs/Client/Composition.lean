import SchemaCheck.Proofs.Client.Exchange
import SchemaCheck.Proofs.Client.FanOut

/-!
# Compositions of clients

A composition is a tree of clients: clients of one provider each, and several compositions as one
client (`Composition`). It keeps one log for all of its transports (`Composition.logged`), which
says what calls it makes when it is asked something (`Composition.calls`, `Composition.makes`). A
check that comes to a response left nothing out: each client of one provider that was to check had
all of its messages answered, and each of several that had a share of the rules was called
(`Composition.Completes`, `Composition.completes_check`).
-/

namespace SchemaCheck

/-! ## Clients with logs -/

/-- A slot for a client's state, with the log in a place of its own. -/
def Slot.logged {σ τ : Type} (slot : Slot σ (ClientState τ)) :
    Slot (σ × List LoggedCall) (ClientState (τ × List LoggedCall)) :=
  ⟨fun s => (slot.get s.1).withLog s.2, fun b s => (slot.put ⟨b.cache, b.link.1⟩ s.1, b.link.2)⟩

/-- What a client's computation does to the log of the client it does to a log beside other state.
-/
theorem Call.Logs.within {σ τ α : Type} {act : Call (ClientState τ) α}
    {act' : Call (ClientState (τ × List LoggedCall)) α} (h : Logs ClientState.withLog act act')
    (slot : Slot σ (ClientState τ)) : Logs Prod.mk (act.within slot) (act'.within slot.logged) := by
  intro s
  obtain ⟨calls, hmakes⟩ := h ⟨s.context, slot.get s.state⟩
  refine ⟨calls, hmakes.lead, hmakes.answered, fun log => ?_⟩
  have hlogged := hmakes.logged log
  rw [Call.within, Call.runIn_mk]
  exact (congrArg (fun run => (run.1, Session.mk run.2.context (slot.logged.put run.2.state
    (s.state, log)))) hlogged)

namespace Call

variable {σ ρ α β : Type}

/-- What has a value has values at every step. -/
theorem exists_of_bind_eq_ok {act : Call σ α} {next : α → Call σ β} {s u : Session σ} {b : β}
    (h : (act >>= next).runIn s = (.ok b, u)) :
    ∃ a t, act.runIn s = (.ok a, t) ∧ (next a).runIn t = (.ok b, u) := by
  rw [runIn_bind] at h
  cases hrun : act.runIn s with
  | mk result t =>
    rw [hrun] at h
    cases result with
    | ok a => exact ⟨a, t, rfl, h⟩
    | error e => cases h

/-- What has a value after a check of the context has it in a live context. -/
theorem of_check_bind_eq_ok {next : Call σ β} {s u : Session σ} {b : β}
    (h : (do check; next).runIn s = (.ok b, u)) :
    s.context.isLive ∧ next.runIn s = (.ok b, u) := by
  rcases CheckClient.runIn_check_bind next s with ⟨hlive, hrun⟩ | ⟨-, e, hrun⟩
  · exact ⟨hlive, hrun.symm.trans h⟩
  · cases hrun.symm.trans h

/-- What is done with a log is done without. -/
theorem Makes.exists_of_logged {act : Call σ α} {act' : Call (σ × List LoggedCall) α}
    {s : Session σ} {calls log : List LoggedCall} (h : Makes Prod.mk act act' s calls)
    {result : Except Stop α} {u : Session (σ × List LoggedCall)}
    (hrun : act'.runIn ⟨s.context, (s.state, log)⟩ = (result, u)) :
    ∃ t, act.runIn s = (result, t) ∧ u = ⟨t.context, (t.state, log ++ calls)⟩ := by
  rw [h.logged] at hrun
  obtain ⟨rfl, rfl⟩ := Prod.mk.inj hrun
  exact ⟨_, rfl, rfl⟩

end Call

namespace CheckClient

open Call

variable {σ α : Type} {d : CheckClient σ} {d' : CheckClient (σ × List LoggedCall)}
  {ds : List (CheckClient σ)} {ds' : List (CheckClient (σ × List LoggedCall))}

/-- Answers a question. -/
def respond (d : CheckClient σ) : (q : Client.Question) → Call σ q.Answer
  | .rules => d.listRules
  | .categories => d.listCategories
  | .check r => d.check r

/-- The second client does what the first does, and logs the calls. -/
def Logs (d : CheckClient σ) (d' : CheckClient (σ × List LoggedCall)) : Prop :=
  ∀ q, Call.Logs Prod.mk (d.respond q) (d'.respond q)

/-- To ask members one after another logs what each of them logs. -/
theorem logs_listEach {list : CheckClient σ → Call σ (List α)}
    {list' : CheckClient (σ × List LoggedCall) → Call (σ × List LoggedCall) (List α)}
    (h : List.Forall₂ (fun d d' => Call.Logs Prod.mk (list d) (list' d')) ds ds') :
    Call.Logs Prod.mk (listEach list ds) (listEach list' ds') := by
  induction h with
  | nil => exact logs_pure _
  | cons hd _ ih => exact logs_check.bind fun _ => hd.bind fun _ => ih.bind fun _ => logs_pure _

/-- To check shares of a request one after another logs what each member logs. -/
theorem logs_checkShares (h : List.Forall₂ Logs ds ds') (r : Request) (lists : List (List Rule)) :
    Call.Logs Prod.mk (checkShares r (ds.zip lists)) (checkShares r (ds'.zip lists)) := by
  induction h generalizing lists with
  | nil => exact logs_pure _
  | cons hd _ ih =>
    cases lists with
    | nil => exact logs_pure _
    | cons rules lists =>
      simp only [List.zip_cons_cons, checkShares]
      split
      · exact ih lists
      · exact logs_check.bind fun _ => (logs_ofResult _).bind fun request =>
          (hd (.check request)).bind fun _ => (ih lists).bind fun _ => logs_pure _

/-- A check among members logs their listings and then the shares. -/
theorem logs_checkAmong (h : List.Forall₂ Logs ds ds') (r : Request) :
    Call.Logs Prod.mk (checkAmong ds r) (checkAmong ds' r) := by
  refine (logs_listEach (h.imp fun _ _ hd => hd .rules)).bind fun lists =>
    (logs_ofResult _).bind fun all => ?_
  split
  · exact (logs_checkShares h r lists).bind fun _ => logs_pure _
  · exact logs_fail _

/-- Two clients or more that come to a response have listed all rules that are asked for, and then
checked their shares. -/
theorem checkAmong_eq_ok {r : Request} {s u : Session σ} {response : Response}
    (h : (checkAmong ds r).runIn s = (.ok response, u)) :
    ∃ lists t, (listEach listRules ds).runIn s = (.ok lists, t) ∧
      (∀ id ∈ r.ruleIds, id ∈ lists.flatten.map Rule.id) ∧
      (mergeShares r (ds.zip lists)).runIn t = (.ok response, u) := by
  obtain ⟨lists, t, hlists, hrest⟩ := Call.exists_of_bind_eq_ok h
  obtain ⟨all, _, hall, -⟩ := Call.exists_of_bind_eq_ok hrest
  have hnodup := Rule.nodup_of_sortUnique (lift_eq_ok_iff.1 (Prod.mk.inj hall).1)
  rw [checkAmong_runIn r hlists hnodup] at h
  cases hunlisted : unlisted r lists with
  | cons id ids =>
    rw [hunlisted] at h
    cases h
  | nil =>
    rw [hunlisted] at h
    refine ⟨lists, t, hlists, fun id hid => ?_, h⟩
    by_contra hnot
    have hmem := mem_unlisted.2 ⟨hid, hnot⟩
    rw [hunlisted] at hmem
    cases hmem

/-- Several clients as one log what each of them logs. -/
theorem logs_multi (h : List.Forall₂ Logs ds ds') : (multi ds).Logs (multi ds') := by
  match h with
  | .nil =>
    rintro (_ | _ | r)
    · exact logs_pure _
    · exact (logs_pure _).bind fun _ => logs_ofResult _
    · exact logs_pure _
  | .cons hd .nil => exact fun q => match q with
    | .rules => hd .rules
    | .categories => hd .categories
    | .check r => hd (.check r)
  | .cons hd (.cons hd' hds) =>
    have h := List.Forall₂.cons hd (.cons hd' hds)
    rintro (_ | _ | r)
    · exact (logs_listEach (h.imp fun _ _ hd => hd .rules)).bind fun _ => logs_ofResult _
    · exact (logs_listEach (h.imp fun _ _ hd => hd .categories)).bind fun _ => logs_ofResult _
    · exact logs_checkAmong h r

end CheckClient

/-! ## Compositions -/

/-- A client of one provider as a part of a composition: what it is, where its state is, and the
provider that its transport leads to, if this is known to be in the same program. -/
structure PlacedClient (σ : Type) where
  {link : Type}
  client : Client link
  slot : Slot σ (ClientState link)
  provider : Option Provider := none
  leads : client.transport.LeadsTo provider

/-- Clients of one provider, and several compositions as one client. -/
inductive Composition (σ : Type) : Type 1 where
  | one (m : PlacedClient σ)
  | several (parts : List (Composition σ))

namespace Composition

variable {σ : Type}

mutual

/-- The client that a composition is. -/
def client : Composition σ → CheckClient σ
  | one m => m.client.checkClient.within m.slot
  | several parts => .multi (clients parts)

/-- The clients that compositions are. -/
def clients : List (Composition σ) → List (CheckClient σ)
  | [] => []
  | K :: parts => K.client :: clients parts

end

mutual

/-- The client that a composition is when it keeps a log. -/
def logged : Composition σ → CheckClient (σ × List LoggedCall)
  | one m => (m.client.logged m.provider).checkClient.within m.slot.logged
  | several parts => .multi (loggedEach parts)

/-- The clients that compositions are when they keep a log together. -/
def loggedEach : List (Composition σ) → List (CheckClient (σ × List LoggedCall))
  | [] => []
  | K :: parts => K.logged :: loggedEach parts

end

mutual

/-- No client in the composition is made of no clients. -/
def Peopled : Composition σ → Prop
  | one _ => True
  | several parts => parts ≠ [] ∧ PeopledEach parts

/-- No client in any of the compositions is made of no clients. -/
def PeopledEach : List (Composition σ) → Prop
  | [] => True
  | K :: parts => K.Peopled ∧ PeopledEach parts

end

/-- The calls that are made when a composition is asked something. -/
def calls (K : Composition σ) (q : Client.Question) (s : Session σ) : List LoggedCall :=
  ((K.logged.respond q).runIn ⟨s.context, (s.state, [])⟩).2.state.2

/-- A client that is placed in a composition logs what it does, whatever it is asked. -/
theorem logs_member (m : PlacedClient σ) : (one m).client.Logs (one m).logged
  | .rules => (Client.logs_respond m.leads .rules).within m.slot
  | .categories => (Client.logs_respond m.leads .categories).within m.slot
  | .check r => (Client.logs_respond m.leads (.check r)).within m.slot

mutual

/-- To keep a log changes nothing else. -/
theorem logs_logged : (K : Composition σ) → K.client.Logs K.logged
  | one m => logs_member m
  | several parts => CheckClient.logs_multi (logs_loggedEach parts)

/-- Each of several compositions logs what it does. -/
theorem logs_loggedEach : (parts : List (Composition σ)) →
    List.Forall₂ CheckClient.Logs (clients parts) (loggedEach parts)
  | [] => .nil
  | K :: parts => .cons (logs_logged K) (logs_loggedEach parts)

end

/-- The calls of a composition are those that are made. -/
theorem makes (K : Composition σ) (q : Client.Question) (s : Session σ) :
    Call.Makes Prod.mk (K.client.respond q) (K.logged.respond q) s (K.calls q s) := by
  obtain ⟨calls, hmakes⟩ := logs_logged K q s
  have hcalls : K.calls q s = calls := by
    rw [Composition.calls, hmakes.logged []]
    rfl
  rw [hcalls]
  exact hmakes

/-! ## Checks that come to a response -/

/-- Compositions list their rules, one after another, each of them in a live context. -/
inductive ListsEach :
    List (Composition σ) → Session σ → List (List Rule) → List LoggedCall → Session σ → Prop where
  | nil {s : Session σ} : ListsEach [] s [] [] s
  | cons {K : Composition σ} {parts : List (Composition σ)} {s t u : Session σ} {rules : List Rule}
      {lists : List (List Rule)} {calls : List LoggedCall} : s.context.isLive →
      K.client.listRules.runIn s = (.ok rules, t) → ListsEach parts t lists calls u →
      ListsEach (K :: parts) s (rules :: lists) (K.calls .rules s ++ calls) u

mutual

/-- A check is done to its end, with calls. A client of one provider sends all messages and reads
all answers. Of several compositions a single one does all; two or more list their rules, among
which are all that are asked for, and then each of them does its share. -/
inductive Completes :
    Composition σ → Request → Session σ → List LoggedCall → Session σ → Prop where
  | one {m : PlacedClient σ} {r : Request} {s : Session σ} {calls : List LoggedCall}
      {replies : List CheckReply} {t : Session m.link} :
      m.client.transport.Exchanges m.provider r.messages ⟨s.context, (m.slot.get s.state).link⟩
        calls replies (.ok ()) t →
      Completes (one m) r s calls
        ⟨t.context, m.slot.put ⟨(m.slot.get s.state).cache, t.state⟩ s.state⟩
  | none {r : Request} {s : Session σ} : Completes (several []) r s [] s
  | only {K : Composition σ} {r : Request} {s t : Session σ} {calls : List LoggedCall} :
      Completes K r s calls t → Completes (several [K]) r s calls t
  | among {parts : List (Composition σ)} {r : Request} {s t u : Session σ}
      {lists : List (List Rule)} {listing calls : List LoggedCall} : 2 ≤ parts.length →
      ListsEach parts s lists listing t → (∀ id ∈ r.ruleIds, id ∈ lists.flatten.map Rule.id) →
      CompletesEach r (parts.zip lists) t calls u →
      Completes (several parts) r s (listing ++ calls) u

/-- Each composition that has a share of the rules does that share, in order, and from a live
context; the others are left out. -/
inductive CompletesEach : Request → List (Composition σ × List Rule) → Session σ →
    List LoggedCall → Session σ → Prop where
  | nil {r : Request} {s : Session σ} : CompletesEach r [] s [] s
  | skip {K : Composition σ} {rules : List Rule} {rest : List (Composition σ × List Rule)}
      {r : Request} {s t : Session σ} {calls : List LoggedCall} :
      CheckClient.share r.ruleIds rules = [] → CompletesEach r rest s calls t →
      CompletesEach r ((K, rules) :: rest) s calls t
  | call {K : Composition σ} {rules : List Rule} {rest : List (Composition σ × List Rule)}
      {r request : Request} {s t u : Session σ} {calls calls' : List LoggedCall} :
      CheckClient.share r.ruleIds rules ≠ [] → s.context.isLive →
      r.withRuleIds (CheckClient.share r.ruleIds rules) = .ok request →
      Completes K request s calls t → CompletesEach r rest t calls' u →
      CompletesEach r ((K, rules) :: rest) s (calls ++ calls') u

end

section

variable {s : Session σ} {log : List LoggedCall} {u : Session (σ × List LoggedCall)}

/-- Compositions that list all their rules do so in turn. -/
theorem exists_listsEach {parts : List (Composition σ)} {lists : List (List Rule)}
    (h : (CheckClient.listEach CheckClient.listRules (loggedEach parts)).runIn
      ⟨s.context, (s.state, log)⟩ = (.ok lists, u)) :
    ∃ calls, ListsEach parts s lists calls ⟨u.context, u.state.1⟩ ∧ u.state.2 = log ++ calls := by
  induction parts generalizing s log lists u with
  | nil =>
    cases h
    exact ⟨[], .nil, (List.append_nil _).symm⟩
  | cons K parts ih =>
    rw [loggedEach, CheckClient.listEach] at h
    obtain ⟨hlive, h⟩ := Call.of_check_bind_eq_ok h
    obtain ⟨rules, t, hlist, h⟩ := Call.exists_of_bind_eq_ok h
    obtain ⟨lists, v, hrest, h⟩ := Call.exists_of_bind_eq_ok h
    cases h
    obtain ⟨t, hrun, rfl⟩ := (K.makes .rules s).exists_of_logged hlist
    obtain ⟨calls, hcalls, hlog⟩ := ih (s := t) hrest
    refine ⟨_, .cons hlive hrun hcalls, ?_⟩
    rw [hlog, List.append_assoc]

/-- A client of one provider that comes to a response has sent everything. -/
theorem exists_completes_member {m : PlacedClient σ} {r : Request} {response : Response}
    (h : ((one m).logged.check r).runIn ⟨s.context, (s.state, log)⟩ = (.ok response, u)) :
    ∃ calls, Completes (one m) r s calls ⟨u.context, u.state.1⟩ ∧ u.state.2 = log ++ calls := by
  obtain ⟨calls, replies, result, t, hexchanges⟩ := m.client.transport.exists_exchanges m.provider
    r.messages ⟨s.context, (m.slot.get s.state).link⟩
  have hrun := Client.check_runIn (c := m.client.logged m.provider) (hexchanges.logged log)
    (m.slot.get s.state).cache
  have hwithin : ((one m).logged.check r).runIn ⟨s.context, (s.state, log)⟩ = _ :=
    congrArg (fun run => (run.1, Session.mk run.2.context (m.slot.logged.put run.2.state
      (s.state, log)))) hrun
  obtain ⟨hresult, rfl⟩ := Prod.mk.inj (hwithin.symm.trans h)
  obtain ⟨_, rfl, -⟩ := SchemaCheck.exists_of_bind_eq_ok (Call.lift_eq_ok_iff.1 hresult)
  exact ⟨calls, .one hexchanges, rfl⟩

end

mutual

/-- A check that comes to a response is done to its end. The log is what was there and the calls. -/
theorem exists_completes : (K : Composition σ) → ∀ {r : Request} {s : Session σ}
    {log : List LoggedCall} {response : Response} {u : Session (σ × List LoggedCall)},
    (K.logged.check r).runIn ⟨s.context, (s.state, log)⟩ = (.ok response, u) →
      ∃ calls, Completes K r s calls ⟨u.context, u.state.1⟩ ∧ u.state.2 = log ++ calls
  | one m, _, _, _, _, _, h => exists_completes_member h
  | several [], r, s, log, response, u, h => by
    cases h
    exact ⟨[], .none, (List.append_nil _).symm⟩
  | several [K], r, s, log, response, u, h => by
    obtain ⟨calls, hcompletes, hlog⟩ := exists_completes K h
    exact ⟨calls, .only hcompletes, hlog⟩
  | several (K :: K' :: parts), r, s, log, response, u, h => by
    have h : (CheckClient.checkAmong (loggedEach (K :: K' :: parts)) r).runIn
      ⟨s.context, (s.state, log)⟩ = (.ok response, u) := h
    obtain ⟨lists, t, hlists, hlisted, hmerge⟩ := CheckClient.checkAmong_eq_ok h
    obtain ⟨listing, hlisting, hlog⟩ := exists_listsEach hlists
    obtain ⟨findings, v, hshares, hresponse⟩ := Call.exists_of_bind_eq_ok hmerge
    cases hresponse
    obtain ⟨calls, hcalls, hlog'⟩ :=
      exists_completesEach (K :: K' :: parts) (s := ⟨t.context, t.state.1⟩) hshares
    refine ⟨_, .among (Nat.le_add_left 2 _) hlisting hlisted hcalls, ?_⟩
    rw [hlog', hlog, List.append_assoc]

/-- Shares that are checked with success have been completed one by one, with the calls that stand
on the log. -/
theorem exists_completesEach : (parts : List (Composition σ)) → ∀ {r : Request}
    {lists : List (List Rule)} {s : Session σ} {log : List LoggedCall} {findings : List Finding}
    {u : Session (σ × List LoggedCall)},
    (CheckClient.checkShares r ((loggedEach parts).zip lists)).runIn
      ⟨s.context, (s.state, log)⟩ = (.ok findings, u) →
      ∃ calls, CompletesEach r (parts.zip lists) s calls ⟨u.context, u.state.1⟩ ∧
        u.state.2 = log ++ calls
  | [], r, lists, s, log, findings, u, h => by
    cases h
    exact ⟨[], .nil, (List.append_nil _).symm⟩
  | K :: parts, r, [], s, log, findings, u, h => by
    cases h
    exact ⟨[], .nil, (List.append_nil _).symm⟩
  | K :: parts, r, rules :: lists, s, log, findings, u, h => by
    rw [loggedEach, List.zip_cons_cons, CheckClient.checkShares] at h
    by_cases hshare : CheckClient.share r.ruleIds rules = []
    · rw [hshare] at h
      obtain ⟨calls, hcalls, hlog⟩ := exists_completesEach parts h
      exact ⟨calls, .skip hshare hcalls, hlog⟩
    · rw [if_neg (fun hempty => hshare (List.isEmpty_iff.1 hempty))] at h
      obtain ⟨hlive, h⟩ := Call.of_check_bind_eq_ok h
      obtain ⟨request, t, hbuild, h⟩ := Call.exists_of_bind_eq_ok h
      obtain ⟨hrequest, rfl⟩ := Prod.mk.inj hbuild
      obtain ⟨response, t, hcheck, h⟩ := Call.exists_of_bind_eq_ok h
      obtain ⟨findings, v, hrest, h⟩ := Call.exists_of_bind_eq_ok h
      cases h
      obtain ⟨calls, hcompletes, hlog⟩ := exists_completes K hcheck
      obtain ⟨calls', hcalls, hlog'⟩ :=
        exists_completesEach parts (s := ⟨t.context, t.state.1⟩) hrest
      refine ⟨_, .call hshare hlive (Call.lift_eq_ok_iff.1 hrequest) hcompletes hcalls, ?_⟩
      rw [hlog', hlog, List.append_assoc]

end

/-- A check that comes to a response is done to its end, with the calls that are made. -/
theorem completes_check {K : Composition σ} {r : Request} {s t : Session σ} {response : Response}
    (h : (K.client.check r).runIn s = (.ok response, t)) :
    Completes K r s (K.calls (.check r) s) t := by
  have hlogged := (K.makes (.check r) s).logged []
  rw [show (K.client.respond (.check r)).runIn s = _ from h] at hlogged
  obtain ⟨calls, hcompletes, hlog⟩ := exists_completes K hlogged
  rw [List.append_cancel_left hlog]
  exact hcompletes

end Composition

end SchemaCheck
