import SchemaCheck.Proofs.Client.Collision
import SchemaCheck.Proofs.Client.Composition
import SchemaCheck.Proofs.Provider.Checking
import SchemaCheck.Proofs.Request.Splitting

/-!
# Rules that nobody lists

A provider answers a check only when it has all rules that the message names
(`Provider.known_of_check`), and so a client of it comes to a response only for such rules
(`Client.known_of_check`). Two clients or more, as one, come to a response only for rules that some
of them lists (`CheckClient.declared_of_checkAmong`). No clients are passed no question and list
nothing, and yet they answer every request, with no findings. So a request for a rule that nobody
lists is refused unless there are no clients (`Client.together_check_unlisted`), and then it is not
(`Client.together_check_unlisted_nobody`).
-/

namespace SchemaCheck

/-! ## One client -/

namespace Provider

variable {p : Provider} {m : CheckMessage} {c d : CallContext}

/-- A provider that answers a check has all rules that are asked for. -/
theorem known_of_check (hc : c.isLive) {reply : CheckReply}
    (h : (p.check m).run c = (.ok reply, d)) : ∀ id ∈ m.ruleIds, id ∈ p.spec.ruleIds := by
  obtain ⟨result, d', hready, hrun⟩ := exists_readies (p := p) m hc
  cases result with
  | error e => cases h.symm.trans hrun
  | ok r =>
    cases hready with
    | plain _ hknown | hooked _ hknown => exact hknown

/-- So does one that serves a message that asks for a check. -/
theorem known_of_handle (hc : c.isLive) {reply : Bytes}
    (h : (p.handle .check (CheckMessage.codec.toBytes m)).run c = (.ok reply, d)) :
    ∀ id ∈ m.ruleIds, id ∈ p.spec.ruleIds := by
  obtain ⟨detail, hread⟩ := CheckMessage.codec_lawful.ofBytes_toBytes m
  rw [handle, hread, Served.run_bind, Served.run_ofResult] at h
  by_cases hdepth : (CheckMessage.codec.encode m).depth ≤ 127
  · simp only [if_pos hdepth] at h
    rw [Served.run_bind] at h
    cases hrun : (p.check m).run c with
    | mk result d' =>
      rw [hrun] at h
      cases result with
      | error e => cases h
      | ok reply => exact known_of_check hc hrun
  · simp only [if_neg hdepth] at h
    cases h

end Provider

namespace Transport

variable {τ : Type} {t : Transport τ} {provider : Option Provider}

/-- When none fails, each message is answered. -/
theorem Exchanges.exists_answer {messages : List CheckMessage} {s u : Session τ}
    {calls : List LoggedCall} {replies : List CheckReply}
    (h : t.Exchanges provider messages s calls replies (.ok ()) u) :
    ∀ m ∈ messages, ∃ v : Session τ, v.context.isLive ∧ ∃ bytes,
      (t .check (CheckMessage.codec.toBytes m) v.context v.state).result = .ok bytes := by
  generalize hresult : (.ok () : Result Unit) = result at h
  induction h with
  | nil => exact fun m hm => absurd hm List.not_mem_nil
  | late | fails => cases hresult
  | @next m messages s u a _ _ _ _ hlive ha hread _ ih =>
    subst ha
    obtain ⟨bytes, hbytes, -⟩ := exists_of_bind_eq_ok hread
    exact List.forall_mem_cons.2 ⟨⟨s, hlive, bytes, hbytes⟩, ih hresult⟩

end Transport

namespace Client

variable {τ : Type} {p : Provider} {c : Client τ} {r : Request}

/-- A client of a provider in the same program comes to a response only when the provider has all
rules that are asked for. -/
theorem known_of_check (hc : c.transport = .ofProvider p) {s : Session (ClientState τ)}
    {response : Response} (h : ((c.check r).runIn s).1 = .ok response) :
    ∀ id ∈ r.ruleIds, id ∈ p.spec.ruleIds := by
  obtain ⟨calls, replies, result, t, hexchanges⟩ :=
    c.transport.exists_exchanges none r.messages ⟨s.context, s.state.link⟩
  have hrun : (c.check r).runIn s = _ := check_runIn hexchanges s.state.cache
  rw [hrun] at h
  obtain ⟨_, rfl, -⟩ := exists_of_bind_eq_ok (Call.lift_eq_ok_iff.1 h)
  intro id hid
  -- each rule is asked for in some message
  rw [← r.flatMap_messages, List.mem_flatMap] at hid
  obtain ⟨m, hm, hid⟩ := hid
  obtain ⟨v, hlive, bytes, hbytes⟩ := hexchanges.exists_answer m hm
  rw [hc, Transport.ofProvider, (CallContext.check_eq_ok_iff _).2 hlive] at hbytes
  exact Provider.known_of_handle hlive (Prod.ext hbytes rfl) id hid

end Client

/-! ## Several clients -/

namespace CheckClient

variable {σ : Type} {P : Session σ → Prop} {members : List (CheckClient σ × Spec)} {r : Request}
  (hP : ∀ s, P s → s.context.isLive)
  (hlists : ∀ m ∈ members, m.1.listRules.Gives P m.2.listedRules)

include hP hlists

/-- Two clients or more that list specs come to a response only for rules of those specs. -/
theorem declared_of_checkAmong {s : Session σ} (hs : P s) {response : Response}
    (h : ((checkAmong (members.map Prod.fst) r).runIn s).1 = .ok response) :
    ∀ id ∈ r.ruleIds, ∃ m ∈ members, id ∈ m.2.ruleIds := by
  obtain ⟨lists, t, hrun, hlisted, -⟩ := checkAmong_eq_ok (Prod.ext h rfl)
  obtain ⟨u, hgiven, -⟩ := listEach_gives hP hlists s hs
  obtain ⟨rfl, -⟩ : lists = (members.map Prod.snd).map Spec.listedRules ∧ t = u := by
    simpa using hrun.symm.trans hgiven
  intro id hid
  have hlisted := hlisted id hid
  rw [← List.flatMap_def, List.flatMap_map] at hlisted
  obtain ⟨rule, hrule, rfl⟩ := List.mem_map.1 hlisted
  obtain ⟨m, hm, hrule⟩ := List.mem_flatMap.1 hrule
  exact ⟨m, hm, m.2.map_id_listedRules_perm.mem_iff.1 (List.mem_map.2 ⟨rule, hrule, rfl⟩)⟩

/-- Clients come, as one, to a response only for rules of the specs that they list, when each of
them does and there are any. -/
theorem declared_of_multi_check (hne : members ≠ [])
    (hone : ∀ m ∈ members, ∀ s response, ((m.1.check r).runIn s).1 = .ok response →
      ∀ id ∈ r.ruleIds, id ∈ m.2.ruleIds) {s : Session σ} (hs : P s) {response : Response}
    (h : (((multi (members.map Prod.fst)).check r).runIn s).1 = .ok response) :
    ∀ id ∈ r.ruleIds, ∃ m ∈ members, id ∈ m.2.ruleIds := by
  match members with
  | [] => exact absurd rfl hne
  | [m] =>
    have hm : m ∈ [m] := List.mem_singleton_self m
    exact fun id hid => ⟨m, hm, hone m hm s response h id hid⟩
  | m :: n :: rest => exact declared_of_checkAmong hP hlists hs h

end CheckClient

namespace Client

variable {τ : Type} {locals : List (Provider × Client τ)} {r : Request}

/-- Clients of providers in the same program come, as one, to a response to a request for a rule
that none of the providers has just when there are no clients. -/
theorem together_check_unlisted (hlocals : ∀ l ∈ locals, l.2.IsLocal l.1)
    {s : Session (Nat → ClientState τ)} (hs : ReadyAll locals s) {id : String}
    (hid : id ∈ r.ruleIds) (hnot : ∀ l ∈ locals, id ∉ l.1.spec.ruleIds) :
    (∃ response, (((together locals).check r).runIn s).1 = .ok response) ↔ locals = [] := by
  constructor
  · rintro ⟨response, h⟩
    by_contra hne
    have hne' : members locals ≠ [] := by simpa [members] using hne
    have hone : ∀ m ∈ members locals, ∀ s response, ((m.1.check r).runIn s).1 = .ok response →
        ∀ id ∈ r.ruleIds, id ∈ m.2.ruleIds := by
      intro m hm s response h
      obtain ⟨i, hi, rfl⟩ := exists_of_mem_members hm
      exact known_of_check (hlocals _ (List.getElem_mem hi)).transport h
    rw [together_eq_multi] at h
    obtain ⟨m, hm, hdeclared⟩ := CheckClient.declared_of_multi_check (fun s hs => hs.live)
      (list_members_gives hlocals .rules) hne' hone hs h id hid
    obtain ⟨i, hi, rfl⟩ := exists_of_mem_members hm
    exact hnot _ (List.getElem_mem hi) hdeclared
  · rintro rfl
    exact ⟨{}, rfl⟩

/-- A request for a rule that is not among the demonstration rules. -/
def misspelt : Request :=
  { Demo.request with ruleIds := ["NOPE_NOPE"], ids_sorted := by decide,
                      ids_valid := by decide +kernel }

/-- `together_check_unlisted` for the demonstration rules in two parts: they come to no response. -/
theorem together_check_unlisted_demo :
    (∀ l ∈ demo, l.2.IsLocal l.1) ∧ ReadyAll demo ⟨{}, fun _ => { link := () }⟩ ∧
    "NOPE_NOPE" ∈ misspelt.ruleIds ∧ (∀ l ∈ demo, "NOPE_NOPE" ∉ l.1.spec.ruleIds) ∧
    ¬ ∃ response, (((together demo).check misspelt).runIn ⟨{}, fun _ => { link := () }⟩).1
      = .ok response := by
  have hready : ReadyAll demo ⟨{}, fun _ => { link := () }⟩ :=
    readyAll_start demo (fun _ => ()) (by decide)
  have hnot : ∀ l ∈ demo, "NOPE_NOPE" ∉ l.1.spec.ruleIds := by decide
  refine ⟨isLocal_demo, hready, List.mem_singleton_self _, hnot, ?_⟩
  rw [together_check_unlisted isLocal_demo hready (List.mem_singleton_self _) hnot]
  exact List.cons_ne_nil _ _

/-- No clients answer the request in a call that goes on, with no findings. -/
theorem together_check_unlisted_nobody :
    ReadyAll ([] : List (Provider × Client Unit)) ⟨{}, fun _ => { link := () }⟩ ∧
      "NOPE_NOPE" ∈ misspelt.ruleIds ∧
      (((together ([] : List (Provider × Client Unit))).check misspelt).runIn
        ⟨{}, fun _ => { link := () }⟩).1 = .ok {} :=
  ⟨readyAll_start [] (fun _ => ()) (by decide), List.mem_singleton_self _, rfl⟩

end Client

end SchemaCheck
