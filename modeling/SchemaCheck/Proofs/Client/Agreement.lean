import SchemaCheck.Proofs.Client.Cache
import SchemaCheck.Proofs.Message.Framing
import SchemaCheck.Proofs.Provider.Agreement

/-!
# Clients that cannot be told apart

Two transports agree when what comes back over them is read alike, by whatever codec
(`Transport.Agrees`). Clients with the same options over transports that agree cannot be told apart
as long as calls stay live: they answer every question with the same value, or with faults under the
same code (`Client.respond_alike`). So they do after any calls that stayed live, since what they
remember agrees too (`Client.after_agrees`).
-/

namespace SchemaCheck

/-! ## Questions -/

namespace Client

/-- What a question is answered with. -/
def Question.Answer : Question → Type
  | .rules => List Rule
  | .categories => List Category
  | .check _ => Response

variable {τ : Type}

/-- Answers a question. -/
def respond (c : Client τ) : (q : Question) → Call (ClientState τ) q.Answer
  | .rules => c.listRules
  | .categories => c.listCategories
  | .check r => c.check r

/-- Whatever a client is asked, it respects what its transport does. -/
theorem respond_respects {R : CallContext → CallContext → Prop} {c : Client τ}
    (hR : CallContext.IsChange R) (ht : c.transport.Respects R) (q : Question) :
    (c.respond q).Respects R :=
  match q with
  | .rules => listRules_respects hR ht
  | .categories => listCategories_respects hR ht
  | .check r => check_respects hR ht r

/-- The next state of a client is the one in which it answers. -/
theorem next_eq (c : Client τ) (s : ClientState τ) (q : Question) (context : CallContext) :
    c.next s (q, context) = ((c.respond q).runIn ⟨context, s⟩).2.state := by
  cases q <;> rfl

/-- Calls stay live to their end, one after another. -/
def Lives (c : Client τ) : ClientState τ → List (Question × CallContext) → Prop
  | _, [] => True
  | s, call :: calls =>
    ((c.respond call.1).runIn ⟨call.2, s⟩).2.context.isLive ∧ c.Lives (c.next s call) calls

end Client

/-! ## What agrees -/

/-- Two computations come to the same for a caller: to the same value, or to faults under the same
code; or both are given up. -/
inductive Call.Matches {α : Type} : Except Stop α → Except Stop α → Prop where
  | ok (a : α) : Matches (.ok a) (.ok a)
  | fault {e f : Fault} : e.code = f.code → Matches (.error (.fault e)) (.error (.fault f))
  | unfinished : Matches (.error .unfinished) (.error .unfinished)

/-- Results that agree come to the same for a caller. -/
theorem Call.matches_lift {α : Type} {x y : Result α} (h : Agree False x y) :
    Call.Matches (lift x) (lift y) := by
  cases h with
  | ok a => exact .ok a
  | fault hcode => exact .fault hcode

/-- Two clients cannot be told apart: asked the same questions in calls that stay live, they come to
the same every time, from their first state on. -/
def Client.Indistinguishable {τ τ' : Type} (c : Client τ) (c' : Client τ') : Prop :=
  ∀ (link : τ) (link' : τ') (calls calls' : List (Question × CallContext)),
    calls.map Prod.fst = calls'.map Prod.fst → c.Lives { link } calls →
      c'.Lives { link := link' } calls' → ∀ (q : Question) (context context' : CallContext),
        let run := (c.respond q).runIn ⟨context, c.after { link } calls⟩
        let run' := (c'.respond q).runIn ⟨context', c'.after { link := link' } calls'⟩
        run.2.context.isLive → run'.2.context.isLive → Call.Matches run.1 run'.1

/-- What two clients remember agrees. -/
structure ListingCache.Agrees (cache cache' : ListingCache) : Prop where
  rules : Option.Rel (Agree False) cache.rules cache'.rules
  categories : Option.Rel (Agree False) cache.categories cache'.categories

/-- Two clients that remember nothing agree. -/
theorem ListingCache.agrees_empty : ListingCache.Agrees {} {} := ⟨.none, .none⟩

namespace Listing

variable {τ τ' α : Type} {s : ClientState τ} {s' : ClientState τ'}

/-- What two clients remember of one listing agrees. -/
theorem agree_get (ℓ : Listing α) (h : s.cache.Agrees s'.cache) :
    Option.Rel (Agree False) (ℓ.slot.get s) (ℓ.slot.get s') := by
  cases ℓ with
  | rules => exact h.rules
  | categories => exact h.categories

/-- To remember results that agree keeps what is remembered in agreement. -/
theorem agrees_put (ℓ : Listing α) (h : s.cache.Agrees s'.cache) {x y : Result (List α)}
    (hxy : Agree False x y) :
    (ℓ.slot.put (some x) s).cache.Agrees (ℓ.slot.put (some y) s').cache := by
  cases ℓ with
  | rules => exact ⟨.some hxy, h.categories⟩
  | categories => exact ⟨h.rules, .some hxy⟩

end Listing

/-- Over two transports, what comes back for a request that is not blank is read alike, by whatever
codec, in calls that stay live. -/
def Transport.Agrees {τ τ' : Type} (t : Transport τ) (t' : Transport τ') : Prop :=
  ∀ (m : Method) (request : Bytes), request.isBlank = false → ∀ (c c' : CallContext) (s : τ)
    (s' : τ'), ((t m request c s).after c).isLive → ((t' m request c' s').after c').isLive →
      ∀ {β : Type} (reply : Codec β), Agree False ((t m request c s).result >>= reply.ofBytes)
        ((t' m request c' s').result >>= reply.ofBytes)

namespace Client

open Call

variable {τ τ' α β : Type}

/-- From states in which two clients remember what agrees, two computations come to the same and
leave such states, as long as the calls stay live. -/
structure Alike (act : Call (ClientState τ) α) (act' : Call (ClientState τ') α) : Prop where
  evolves : act.Respects CallContext.Evolves
  evolves' : act'.Respects CallContext.Evolves
  agree : ∀ s s', s.state.cache.Agrees s'.state.cache → (act.runIn s).2.context.isLive →
    (act'.runIn s').2.context.isLive → Call.Matches (act.runIn s).1 (act'.runIn s').1 ∧
      (act.runIn s).2.state.cache.Agrees (act'.runIn s').2.state.cache

/-! ## Computations that are alike -/

/-- To give one value over both transports is alike. -/
theorem alike_pure (a : α) : Alike (pure a : Call (ClientState τ) α)
    (pure a : Call (ClientState τ') α) :=
  ⟨respects_pure CallContext.evolves_isChange a, respects_pure CallContext.evolves_isChange a,
    fun _ _ hcache _ _ => ⟨.ok a, hcache⟩⟩

/-- To give one result over both transports is alike. -/
theorem alike_ofResult (r : Result α) : Alike (ofResult r : Call (ClientState τ) α)
    (ofResult r : Call (ClientState τ') α) :=
  ⟨respects_ofResult CallContext.evolves_isChange r,
    respects_ofResult CallContext.evolves_isChange r,
    fun _ _ hcache _ _ => ⟨matches_lift (.refl r), hcache⟩⟩

/-- To give up over both transports is alike. -/
theorem alike_giveUp : Alike (giveUp : Call (ClientState τ) α) (giveUp : Call (ClientState τ') α) :=
  ⟨respects_giveUp CallContext.evolves_isChange, respects_giveUp CallContext.evolves_isChange,
    fun _ _ hcache _ _ => ⟨.unfinished, hcache⟩⟩

/-- Alike computations before alike ones make alike computations: the values are the same, so both
go on in the same way, or both have stopped. -/
theorem Alike.bind {act : Call (ClientState τ) α} {act' : Call (ClientState τ') α}
    {next : α → Call (ClientState τ) β} {next' : α → Call (ClientState τ') β}
    (h : Alike act act') (hn : ∀ a, Alike (next a) (next' a)) :
    Alike (act >>= next) (act' >>= next') where
  evolves := h.evolves.bind CallContext.evolves_isChange fun a => (hn a).evolves
  evolves' := h.evolves'.bind CallContext.evolves_isChange fun a => (hn a).evolves'
  agree s s' hcache hlive hlive' := by
    have hrun := h.agree s s' hcache
    rw [runIn_bind] at hlive hlive' ⊢
    rw [runIn_bind]
    generalize act.runIn s = run at hrun hlive ⊢
    generalize act'.runIn s' = run' at hrun hlive' ⊢
    obtain ⟨result, t⟩ := run
    obtain ⟨result', t'⟩ := run'
    have ht : t.context.isLive := by
      cases result with
      | ok a => exact ((hn a).evolves t).isLive hlive
      | error e => exact hlive
    have ht' : t'.context.isLive := by
      cases result' with
      | ok a => exact ((hn a).evolves' t').isLive hlive'
      | error e => exact hlive'
    obtain ⟨hagree, hcache⟩ := hrun ht ht'
    cases hagree with
    | ok a => exact (hn a).agree t t' hcache hlive hlive'
    | fault hcode => exact ⟨.fault hcode, hcache⟩
    | unfinished => exact ⟨.unfinished, hcache⟩

/-- To drain pages is alike when it is alike to fetch one. -/
theorem drain_alike {fetch : String → Call (ClientState τ) (PageReply α)}
    {fetch' : String → Call (ClientState τ') (PageReply α)}
    (h : ∀ token, Alike (fetch token) (fetch' token)) (pages : Nat) (token : String) :
    Alike (drain fetch pages token) (drain fetch' pages token) := by
  induction pages generalizing token with
  | zero => exact alike_giveUp
  | succ n ih =>
    refine (h token).bind fun page => ?_
    split
    · exact alike_pure _
    · exact (ih _).bind fun _ => alike_pure _

/-! ## Listings -/

/-- To remember does not touch the context. -/
theorem context_kept (options : ClientOptions) (ℓ : Listing α)
    (run : Except Stop (List α) × Session (ClientState τ)) :
    (kept options ℓ run).2.context = run.2.context := by
  obtain ⟨(e | _) | as, t⟩ := run
  · simp only [kept]
    split <;> rfl
  · rfl
  · rfl

/-- What is left of two runs that come to the same comes to the same, and what is remembered of them
agrees. A failure is wrapped on both sides, or on neither. -/
theorem matches_kept (options : ClientOptions) (ℓ : Listing α)
    {run : Except Stop (List α) × Session (ClientState τ)}
    {run' : Except Stop (List α) × Session (ClientState τ')} (h : Call.Matches run.1 run'.1)
    (hcache : run.2.state.cache.Agrees run'.2.state.cache) :
    Call.Matches (kept options ℓ run).1 (kept options ℓ run').1 ∧
      (kept options ℓ run).2.state.cache.Agrees (kept options ℓ run').2.state.cache := by
  obtain ⟨result, t⟩ := run
  obtain ⟨result', t'⟩ := run'
  cases h with
  | ok as => exact ⟨.ok as, ℓ.agrees_put hcache (.ok as)⟩
  | unfinished => exact ⟨.unfinished, hcache⟩
  | fault hcode =>
    simp only [kept]
    cases options.retryFailed with
    | true => exact ⟨.fault hcode, hcache⟩
    | false => exact ⟨.fault hcode, ℓ.agrees_put hcache (.fault hcode fun h => h.elim)⟩

variable {c : Client τ} {c' : Client τ'}

/-- Listings of clients with the same options are alike when what they fetch is. -/
theorem list_alike (hoptions : c'.options = c.options) {ℓ : Listing α}
    (hfetch : Alike (c.fetch ℓ) (c'.fetch ℓ)) : Alike (c.list ℓ) (c'.list ℓ) where
  evolves := list_eq_cached c ℓ ▸ cached_respects CallContext.evolves_isChange _ hfetch.evolves
  evolves' := list_eq_cached c' ℓ ▸ cached_respects CallContext.evolves_isChange _ hfetch.evolves'
  agree s s' hagrees hlive hlive' := by
    cases hcache : c.options.cache with
    | false =>
      rw [list_eq_fetch hcache] at hlive ⊢
      rw [list_eq_fetch (hoptions ▸ hcache)] at hlive' ⊢
      exact hfetch.agree s s' hagrees hlive hlive'
    | true =>
      have hcache' : c'.options.cache = true := hoptions ▸ hcache
      have hget := ℓ.agree_get hagrees
      cases hentry : ℓ.slot.get s.state with
      | some entry =>
        rw [hentry] at hget
        cases hentry' : ℓ.slot.get s'.state with
        | none => rw [hentry'] at hget; cases hget
        | some entry' =>
          rw [hentry'] at hget
          obtain ⟨hsame⟩ := hget
          rw [list_of_get hcache hentry, list_of_get hcache' hentry']
          refine ⟨matches_lift ?_, hagrees⟩
          cases hsame with
          | ok as => exact .ok as
          | fault hcode => exact .fault hcode fun h => h.elim
      | none =>
        rw [hentry] at hget
        cases hentry' : ℓ.slot.get s'.state with
        | some entry' => rw [hentry'] at hget; cases hget
        | none =>
          rw [list_of_none hcache hentry] at hlive ⊢
          rw [list_of_none hcache' hentry', hoptions] at hlive' ⊢
          rw [context_kept] at hlive hlive'
          obtain ⟨hsame, hagrees⟩ := hfetch.agree s s' hagrees hlive hlive'
          exact matches_kept _ _ hsame hagrees

/-! ## Clients that are alike -/

section

variable (ht : c.transport.Agrees c'.transport)

include ht

/-- Over transports that agree, to ask something that is not blank is alike. -/
theorem ask_alike (m : Method) (request : Codec α) (reply : Codec β) {message : α}
    (hrequest : (request.toBytes message).isBlank = false) :
    Alike (c.ask m request reply message) (c'.ask m request reply message) where
  evolves := ask_respects CallContext.evolves_isChange c.transport.evolves _ _ _ _
  evolves' := ask_respects CallContext.evolves_isChange c'.transport.evolves _ _ _ _
  agree s s' hagrees hlive hlive' := by
    have hs := (ask_respects CallContext.evolves_isChange c.transport.evolves m request reply
      message s).isLive hlive
    have hs' := (ask_respects CallContext.evolves_isChange c'.transport.evolves m request reply
      message s').isLive hlive'
    rw [ask_runIn hs] at hlive ⊢
    rw [ask_runIn hs'] at hlive' ⊢
    exact ⟨matches_lift (ht m _ hrequest _ _ _ _ hlive hlive' reply), hagrees⟩

/-- To send messages is alike, for none of them is blank. -/
theorem sendAll_alike (collector : Collector) (messages : List CheckMessage) :
    Alike (c.sendAll collector messages) (c'.sendAll collector messages) := by
  induction messages generalizing collector with
  | nil => exact alike_pure _
  | cons m messages ih =>
    exact (ask_alike ht _ _ _ (CheckMessage.toBytes_isBlank m)).bind fun reply => ih _

/-- Checks of one request are alike. -/
theorem check_alike (r : Request) : Alike (c.check r) (c'.check r) :=
  (sendAll_alike ht _ _).bind fun _ => alike_ofResult _

variable (hoptions : c'.options = c.options) (hpages : c'.maxPages = c.maxPages)

include hpages

/-- To fetch categories is alike. -/
theorem fetchCategories_alike : Alike c.fetchCategories c'.fetchCategories := by
  unfold fetchCategories
  rw [hpages]
  exact (drain_alike (fun _ => ask_alike ht _ _ _ (PageMessage.toBytes_isBlank _)) _ _).bind
    fun _ => alike_ofResult _

include hoptions

/-- To fetch rules is alike, with the categories that are listed for them. -/
theorem fetchRules_alike : Alike c.fetchRules c'.fetchRules := by
  unfold fetchRules
  rw [hpages]
  exact (drain_alike (fun _ => ask_alike ht _ _ _ (PageMessage.toBytes_isBlank _)) _ _).bind
    fun _ => (list_alike (ℓ := .categories) hoptions (fetchCategories_alike ht hpages)).bind
      fun _ => alike_ofResult _

/-- Clients with the same options over transports that agree answer every question alike. -/
theorem respond_alike (q : Question) : Alike (c.respond q) (c'.respond q) :=
  match q with
  | .rules => list_alike (ℓ := .rules) hoptions (fetchRules_alike ht hoptions hpages)
  | .categories => list_alike (ℓ := .categories) hoptions (fetchCategories_alike ht hpages)
  | .check r => check_alike ht r

/-- What such clients remember agrees after the same questions in calls that stay live. The
induction is on the calls. -/
theorem after_agrees {calls calls' : List (Question × CallContext)}
    (hcalls : calls.map Prod.fst = calls'.map Prod.fst) {s : ClientState τ} {t : ClientState τ'}
    (h : s.cache.Agrees t.cache) (hlives : c.Lives s calls) (hlives' : c'.Lives t calls') :
    (c.after s calls).cache.Agrees (c'.after t calls').cache := by
  induction calls generalizing calls' s t with
  | nil =>
    obtain rfl := List.map_eq_nil_iff.1 hcalls.symm
    exact h
  | cons call calls ih =>
    cases calls' with
    | nil => cases hcalls
    | cons call' calls' =>
      obtain ⟨q, context⟩ := call
      obtain ⟨q', context'⟩ := call'
      obtain ⟨rfl, hrest⟩ : q = q' ∧ _ := List.cons.inj hcalls
      refine ih hrest ?_ hlives.2 hlives'.2
      rw [next_eq, next_eq]
      exact ((respond_alike ht hoptions hpages q).agree _ _ h hlives.1 hlives'.1).2

/-- Clients with the same options over transports that agree cannot be told apart. -/
theorem indistinguishable : c.Indistinguishable c' := by
  intro link link' calls calls' hcalls hlives hlives' q context context' run run' hlive hlive'
  have hcaches := after_agrees ht hoptions hpages hcalls (s := { link }) (t := { link := link' })
    ListingCache.agrees_empty hlives hlives'
  exact ((respond_alike ht hoptions hpages q).agree ⟨context, _⟩ ⟨context', _⟩ hcaches hlive
    hlive').1

end

end Client

end SchemaCheck
