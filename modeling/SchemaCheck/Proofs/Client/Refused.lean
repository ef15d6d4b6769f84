import SchemaCheck.Proofs.Client.Agreement

/-!
# Clients that are refused

A transport may refuse everything, by faults under one code (`Transport.Refuses`). Then so does a
client over it: whatever it is asked, in calls that stay live, it fails under this code
(`Client.respond_refused`), also from memory, since nothing else is remembered
(`Client.after_refused`).
-/

namespace SchemaCheck

variable {τ α β : Type} {code : FaultCode}

/-- A transport gives nothing but faults under a code, in calls that stay live. -/
def Transport.Refuses (code : FaultCode) (t : Transport τ) : Prop :=
  ∀ m request c s, ((t m request c s).after c).isLive →
    ∃ e, (t m request c s).result = .error e ∧ e.code = code

/-- Nothing but faults under a code is remembered. -/
structure ListingCache.Refused (code : FaultCode) (cache : ListingCache) : Prop where
  rules : ∀ entry, cache.rules = some entry → ∃ e, entry = .error e ∧ e.code = code
  categories : ∀ entry, cache.categories = some entry → ∃ e, entry = .error e ∧ e.code = code

/-- A cache that remembers nothing remembers no listing that was given. -/
theorem ListingCache.refused_empty : ListingCache.Refused code {} :=
  ⟨fun _ h => (nomatch h), fun _ h => (nomatch h)⟩

namespace Listing

variable {s : ClientState τ} (ℓ : Listing α) (h : s.cache.Refused code)

include h

/-- What is remembered of a listing is a fault under the code. -/
theorem refused_get {entry : Result (List α)} (hget : ℓ.slot.get s = some entry) :
    ∃ e, entry = .error e ∧ e.code = code := by
  cases ℓ with
  | rules => exact h.rules entry hget
  | categories => exact h.categories entry hget

/-- To remember a fault under the code adds nothing but such a fault. -/
theorem refused_put {e : Fault} (he : e.code = code) :
    (ℓ.slot.put (some (.error e)) s).cache.Refused code := by
  cases ℓ with
  | rules => exact ⟨fun _ hput => ⟨e, (Option.some.inj hput).symm, he⟩, h.categories⟩
  | categories => exact ⟨h.rules, fun _ hput => ⟨e, (Option.some.inj hput).symm, he⟩⟩

end Listing

namespace Client

open Call

/-- A client fails on everything under a code: whatever it is asked in a call that stays live, from
its first state on. -/
def FailsAlways (c : Client τ) (code : FaultCode) : Prop :=
  ∀ (link : τ) (calls : List (Question × CallContext)), c.Lives { link } calls →
    ∀ (q : Question) (context : CallContext),
      let run := (c.respond q).runIn ⟨context, c.after { link } calls⟩
      run.2.context.isLive → ∃ e, run.1 = .error (.fault e) ∧ e.code = code

/-- From states in which nothing but faults under a code is remembered, a computation fails under
this code and leaves such a state, as long as the call stays live. -/
structure Refused (code : FaultCode) (act : Call (ClientState τ) α) : Prop where
  evolves : act.Respects CallContext.Evolves
  fails : ∀ s, s.state.cache.Refused code → (act.runIn s).2.context.isLive →
    (∃ e, (act.runIn s).1 = .error (.fault e) ∧ e.code = code) ∧
      (act.runIn s).2.state.cache.Refused code

/-- What begins with a failure fails, whatever was to follow. -/
theorem Refused.bind {act : Call (ClientState τ) α} {next : α → Call (ClientState τ) β}
    (h : Refused code act) (hn : ∀ a, (next a).Respects CallContext.Evolves) :
    Refused code (act >>= next) where
  evolves := h.evolves.bind CallContext.evolves_isChange hn
  fails s hcache hlive := by
    have hrun := h.fails s hcache
    rw [runIn_bind] at hlive ⊢
    generalize act.runIn s = run at hrun hlive ⊢
    obtain ⟨result, t⟩ := run
    have ht : t.context.isLive := by
      cases result with
      | ok a => exact (hn a t).isLive hlive
      | error e => exact hlive
    obtain ⟨⟨e, rfl, hcode⟩, hcache⟩ := hrun ht
    exact ⟨⟨e, rfl, hcode⟩, hcache⟩

/-- A listing that may take a page fails on its first page. -/
theorem drain_refused {fetch : String → Call (ClientState τ) (PageReply α)}
    (h : ∀ token, Refused code (fetch token)) {pages : Nat} (hpages : 0 < pages) (token : String) :
    Refused code (drain fetch pages token) := by
  obtain ⟨n, rfl⟩ : ∃ n, pages = n + 1 := ⟨pages - 1, by omega⟩
  refine (h token).bind fun page => ?_
  split
  · exact respects_pure CallContext.evolves_isChange _
  · exact (drain_respects CallContext.evolves_isChange (fun token => (h token).evolves) _ _).bind
      CallContext.evolves_isChange fun _ => respects_pure CallContext.evolves_isChange _

/-- What is left of a run that failed to fetch a listing fails too. -/
theorem refused_kept (options : ClientOptions) (ℓ : Listing α)
    {run : Except Stop (List α) × Session (ClientState τ)} {e : Fault}
    (he : run.1 = .error (.fault e)) (hcode : e.code = code)
    (hcache : run.2.state.cache.Refused code) :
    (∃ e, (kept options ℓ run).1 = .error (.fault e) ∧ e.code = code) ∧
      (kept options ℓ run).2.state.cache.Refused code := by
  obtain ⟨result, t⟩ := run
  obtain rfl : result = .error (.fault e) := he
  simp only [kept]
  cases options.retryFailed with
  | true => exact ⟨⟨e, rfl, hcode⟩, hcache⟩
  | false => exact ⟨⟨.shared e, rfl, hcode⟩, ℓ.refused_put hcache hcode⟩

variable {c : Client τ}

/-- A listing that cannot be fetched fails, also when its failure is remembered. -/
theorem list_refused {ℓ : Listing α} (hfetch : Refused code (c.fetch ℓ)) :
    Refused code (c.list ℓ) where
  evolves := list_eq_cached c ℓ ▸ cached_respects CallContext.evolves_isChange _ hfetch.evolves
  fails s hrefused hlive := by
    cases hcache : c.options.cache with
    | false =>
      rw [list_eq_fetch hcache] at hlive ⊢
      exact hfetch.fails s hrefused hlive
    | true =>
      cases hentry : ℓ.slot.get s.state with
      | some entry =>
        obtain ⟨e, rfl, hcode⟩ := ℓ.refused_get hrefused hentry
        rw [list_of_get hcache hentry]
        exact ⟨⟨.shared e, rfl, hcode⟩, hrefused⟩
      | none =>
        rw [list_of_none hcache hentry] at hlive ⊢
        rw [context_kept] at hlive
        obtain ⟨⟨e, he, hcode⟩, hrefused⟩ := hfetch.fails s hrefused hlive
        exact refused_kept _ _ he hcode hrefused

section

variable (ht : c.transport.Refuses code)

include ht

/-- To ask over a transport that refuses fails under its code. -/
theorem ask_refused (m : Method) (request : Codec α) (reply : Codec β) (message : α) :
    Refused code (c.ask m request reply message) where
  evolves := ask_respects CallContext.evolves_isChange c.transport.evolves _ _ _ _
  fails s hcache hlive := by
    have hs := (ask_respects CallContext.evolves_isChange c.transport.evolves m request reply
      message s).isLive hlive
    rw [ask_runIn hs] at hlive ⊢
    obtain ⟨e, he, hcode⟩ := ht _ _ _ _ hlive
    refine ⟨⟨e, ?_, hcode⟩, hcache⟩
    dsimp only
    rw [he]
    rfl

/-- A check sends a message at least, and fails on the first. -/
theorem check_refused (r : Request) : Refused code (c.check r) := by
  have hsend : ∀ (collector : Collector) {messages : List CheckMessage}, messages ≠ [] →
      Refused code (c.sendAll collector messages) := by
    intro collector messages hne
    cases messages with
    | nil => exact absurd rfl hne
    | cons m messages =>
      exact (ask_refused ht _ _ _ m).bind fun reply =>
        sendAll_respects CallContext.evolves_isChange c.transport.evolves _ _
  exact (hsend _ r.messages_ne_nil).bind fun _ => respects_ofResult CallContext.evolves_isChange _

variable (hpages : 0 < c.maxPages)

include hpages

/-- The fetching of categories fails with the first page. -/
theorem fetchCategories_refused : Refused code c.fetchCategories :=
  (drain_refused (fun _ => ask_refused ht _ _ _ _) hpages _).bind fun _ =>
    respects_ofResult CallContext.evolves_isChange _

/-- The fetching of rules fails with the first page, and the categories are not asked for. -/
theorem fetchRules_refused : Refused code c.fetchRules :=
  (drain_refused (fun _ => ask_refused ht _ _ _ _) hpages _).bind fun _ =>
    (listCategories_respects CallContext.evolves_isChange c.transport.evolves).bind
      CallContext.evolves_isChange fun _ => respects_ofResult CallContext.evolves_isChange _

/-- A client over a transport that refuses everything fails on every question. -/
theorem respond_refused (q : Question) : Refused code (c.respond q) :=
  match q with
  | .rules => list_refused (ℓ := .rules) (fetchRules_refused ht hpages)
  | .categories => list_refused (ℓ := .categories) (fetchCategories_refused ht hpages)
  | .check r => check_refused ht r

/-- Such a client remembers nothing but faults, after any calls that stay live. The induction is on
the calls. -/
theorem after_refused {calls : List (Question × CallContext)} {s : ClientState τ}
    (h : s.cache.Refused code) (hlives : c.Lives s calls) :
    (c.after s calls).cache.Refused code := by
  induction calls generalizing s with
  | nil => exact h
  | cons call calls ih =>
    obtain ⟨q, context⟩ := call
    refine ih ?_ hlives.2
    rw [next_eq]
    exact ((respond_refused ht hpages q).fails _ h hlives.1).2

/-- A client over a transport that refuses everything fails on everything. -/
theorem failsAlways : c.FailsAlways code := by
  intro link calls hlives q context run hlive
  have hcache := after_refused ht hpages (s := { link }) ListingCache.refused_empty hlives
  exact ((respond_refused ht hpages q).fails ⟨context, _⟩ hcache hlive).1

end

end Client

end SchemaCheck
