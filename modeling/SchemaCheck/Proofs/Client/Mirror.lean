import SchemaCheck.Proofs.Client.Cache

/-!
# Listings mirror the spec

A client of a provider in the same program lists the rules and the categories that the spec
declares, each once, in the order of identifiers, and each rule with the categories that it names
(`Spec.MirroredBy`). For each of the two listings it takes no more calls than there must be. These
are counted on the way to the provider, by a transport that keeps a record of what it is asked for
(`Transport.recorded`): `Client.listings_mirror_spec`.
-/

namespace SchemaCheck

/-! ## What mirrors a spec -/

/-- A listed rule says what a declared rule says, and has the categories that this one names, in the
same order. -/
structure RuleEntry.MirroredBy (declared : List Category) (e : RuleEntry) (r : Rule) : Prop where
  id : r.id = e.id
  purpose : r.purpose = e.purpose
  type : r.type = e.type
  isDefault : r.isDefault = e.isDefault
  deprecated : r.deprecated = e.deprecated
  replacementIds : r.replacementIds = e.replacementIds
  categories : List.Forall₂ (fun id c => c ∈ declared ∧ c.id = id) e.categoryIds r.categories

/-- Listed rules and categories are those of a spec, each once, in the order of identifiers. -/
structure Spec.MirroredBy (s : Spec) (rules : List Rule) (categories : List Category) : Prop where
  rules_ascending : (rules.map Rule.id).Pairwise (· < ·)
  rules : ∃ entries, entries.Perm s.ruleEntries ∧
    List.Forall₂ (RuleEntry.MirroredBy s.categories) entries rules
  categories_ascending : (categories.map Category.id).Pairwise (· < ·)
  categories : categories.Perm s.categories

/-- What known identifiers find are the categories with these. -/
theorem Rule.forall₂_find? {known : List Category} {ids : List String}
    (h : ∀ id ∈ ids, id ∈ known.map Category.id) :
    List.Forall₂ (fun id c => c ∈ known ∧ c.id = id) ids
      (ids.filterMap fun id => known.find? fun c => c.id == id) := by
  induction ids with
  | nil => exact .nil
  | cons id ids ih =>
    obtain ⟨hid, hids⟩ := List.forall_mem_cons.1 h
    obtain ⟨c, hc, hfind, hcid⟩ := exists_find?_eq hid
    simp only [List.filterMap_cons, hfind]
    exact .cons ⟨hc, hcid⟩ (ih hids)

namespace Spec

variable {s : Spec}

/-- A rule is mirrored by the one with the declared categories that it names. -/
theorem IsValid.mirroredBy_among (h : s.IsValid) {e : RuleEntry} (he : e ∈ s.ruleEntries) :
    e.MirroredBy s.categories (Rule.among s.categories e) :=
  ⟨rfl, rfl, rfl, rfl, rfl, rfl, Rule.forall₂_find? (h.categoryIds_known he)⟩

/-- What a valid spec lists mirrors it. -/
theorem IsValid.mirroredBy (h : s.IsValid) : s.MirroredBy s.listedRules s.listedCategories where
  rules_ascending := pairwise_lt_sortByKey (s.map_id_listedRules_perm.nodup_iff.2 h.nodup_ruleIds)
  rules := by
    have hperm := sortByKey_perm RuleEntry.id s.ruleEntries
    have hid : ∀ e, (Rule.among s.categories e).id = e.id := fun _ => rfl
    refine ⟨_, hperm, ?_⟩
    rw [listedRules, ← map_sortByKey hid, List.forall₂_map_right_iff, List.forall₂_same]
    exact fun e he => h.mirroredBy_among (hperm.mem_iff.1 he)
  categories_ascending :=
    pairwise_lt_sortByKey (s.map_id_listedCategories_perm.nodup_iff.2 h.nodup_categoryIds)
  categories := sortByKey_perm Category.id s.categories

end Spec

/-! ## Records of calls -/

/-- A transport that also keeps a record of the methods that it is asked by. -/
def Transport.recorded {τ : Type} (t : Transport τ) : Transport (τ × List Method) :=
  fun m request context s =>
    let a := t m request context s.1
    { result := a.result, state := (a.state, s.2 ++ [m]), cancels := a.cancels, time := a.time }

/-- A client over the transport that keeps a record. -/
def Client.recorded {τ : Type} (c : Client τ) : Client (τ × List Method) :=
  { transport := c.transport.recorded, options := c.options, maxPages := c.maxPages }

namespace Session

variable {τ : Type}

/-- A session over a transport, as one over the transport that keeps a record. -/
def withRecord (s : Session (ClientState τ)) (record : List Method) :
    Session (ClientState (τ × List Method)) :=
  ⟨s.context, ⟨s.state.cache, (s.state.link, record)⟩⟩

/-- A session in which something else is remembered. -/
def remembering (s : Session (ClientState τ)) (cache : ListingCache) : Session (ClientState τ) :=
  ⟨s.context, ⟨cache, s.state.link⟩⟩

end Session

namespace Client

open Call

variable {τ α β γ : Type}

/-- A computation gives a value, and so does the same one over the transport that keeps a record. On
this record stand, in addition, calls by some methods. -/
structure Takes (act : Call (ClientState τ) β) (act' : Call (ClientState (τ × List Method)) β)
    (s : Session (ClientState τ)) (b : β) (ms : List Method) (t : Session (ClientState τ)) :
    Prop where
  run : act.runIn s = (.ok b, t)
  recorded : ∀ before, act'.runIn (s.withRecord before) = (.ok b, t.withRecord (before ++ ms))

/-- A client gives a listing in a session, with calls by some methods, and leaves all but what it
remembers as it was. If it has no cache, it leaves that too. -/
def ListsFor (c : Client τ) (ℓ : Listing α) (s : Session (ClientState τ)) (as : List α)
    (ms : List Method) : Prop :=
  ∃ cache, Takes (c.list ℓ) (c.recorded.list ℓ) s as ms (s.remembering cache) ∧
    (c.options.cache = false → cache = s.state.cache)

section

variable {s t u : Session (ClientState τ)} {ms ms' : List Method} {c : Client τ}

/-- Two computations take the calls of the first and then those of the second. -/
theorem Takes.bind {act : Call (ClientState τ) β} {act' : Call (ClientState (τ × List Method)) β}
    {next : β → Call (ClientState τ) γ} {next' : β → Call (ClientState (τ × List Method)) γ}
    {b : β} {d : γ} (h : Takes act act' s b ms t) (hn : Takes (next b) (next' b) t d ms' u) :
    Takes (act >>= next) (act' >>= next') s d (ms ++ ms') u where
  run := by
    rw [runIn_bind, h.run]
    exact hn.run
  recorded before := by
    rw [runIn_bind, h.recorded, ← List.append_assoc]
    exact hn.recorded _

/-- To make something else of the value takes no more calls. -/
theorem Takes.bind_ofResult {act : Call (ClientState τ) β}
    {act' : Call (ClientState (τ × List Method)) β} {f : β → Result γ} {b : β} {d : γ}
    (h : Takes act act' s b ms t) (hf : f b = .ok d) :
    Takes (act >>= fun b => ofResult (f b)) (act' >>= fun b => ofResult (f b)) s d ms t where
  run := by
    rw [runIn_bind, h.run]
    exact congrArg (fun r => (lift r, t)) hf
  recorded before := by
    rw [runIn_bind, h.recorded]
    exact congrArg (fun r => (lift r, _)) hf

/-- A listing of which nothing is remembered takes the calls that fetching it takes. -/
theorem listsFor_of_takes {ℓ : Listing α} {as : List α} {cache : ListingCache}
    (hnone : c.options.cache = true → ℓ.slot.get s.state = none)
    (h : Takes (c.fetch ℓ) (c.recorded.fetch ℓ) s as ms (s.remembering cache))
    (hcache : c.options.cache = false → cache = s.state.cache) : c.ListsFor ℓ s as ms := by
  cases hoption : c.options.cache with
  | false =>
    refine ⟨cache, ?_, fun _ => hcache hoption⟩
    rwa [list_eq_fetch hoption, list_eq_fetch (c := c.recorded) hoption]
  | true =>
    have hget := hnone hoption
    have hget' : ∀ before, ℓ.slot.get (s.withRecord before).state = none := by
      cases ℓ <;> exact fun _ => hget
    refine ⟨(ℓ.slot.put (some (.ok as)) (s.remembering cache).state).cache, ⟨?_, fun before => ?_⟩,
      fun h => absurd h (by simp [hoption])⟩
    · rw [list_of_none hoption hget, h.run]
      cases ℓ <;> rfl
    · rw [list_of_none (c := c.recorded) hoption (hget' before), h.recorded]
      cases ℓ <;> rfl

/-- To ask over the transport that keeps a record is to ask, and to be recorded. -/
theorem ask_recorded {m : Method} {request : Codec α} {reply : Codec β} {message : α}
    (hlive : s.context.isLive) (before : List Method) :
    (c.recorded.ask m request reply message).runIn (s.withRecord before)
      = (((c.ask m request reply message).runIn s).1,
        ((c.ask m request reply message).runIn s).2.withRecord (before ++ [m])) := by
  rw [ask_runIn hlive, ask_runIn (c := c.recorded) hlive]
  rfl

end

/-! ## Listings of a provider in the same program -/

section

variable {p : Provider} {c : Client τ} {s : Session (ClientState τ)} {key : α → String}
  {listing : List α} (hc : c.IsLocal p) (hlive : s.context.isLive)

include hc hlive

/-- A listing takes one call for each page. -/
theorem drain_takes {method : Method} {reply : Codec (PageReply α)}
    (hserves : p.ServesPages method reply key listing)
    (hlength : listing.length ≤ pageSize.toNat * c.maxPages) :
    Takes
      (drain (fun token => c.ask method PageMessage.codec reply ⟨pageSize, token⟩) c.maxPages "")
      (drain (fun token => c.recorded.ask method PageMessage.codec reply ⟨pageSize, token⟩)
        c.recorded.maxPages "")
      s listing (List.replicate (max 1 ((listing.length + 249) / 250)) method) s := by
  have hstart := tokenAt_empty key listing
  refine ⟨?_, fun before => ?_⟩
  · have hfetch : ∀ (_ : Nat) token rest, TokenAt key listing rest token →
        (c.ask method PageMessage.codec reply ⟨pageSize, token⟩).Leads (· = s)
          ⟨nextToken key rest pageSize.toNat, rest.take pageSize.toNat⟩ (· = s) := by
      rintro - token rest htoken _ rfl
      exact ⟨_, ask_page hc hserves htoken hlive, rfl⟩
    obtain ⟨t, hrun, rfl⟩ := drain_leads (P := fun _ t => t = s) (n := 0) hserves.keys hfetch hstart
      hlength hc.maxPages_pos s rfl
    exact hrun
  · have hfetch : ∀ n token rest, TokenAt key listing rest token →
        (c.recorded.ask method PageMessage.codec reply ⟨pageSize, token⟩).Leads
          (· = s.withRecord (before ++ List.replicate n method))
          ⟨nextToken key rest pageSize.toNat, rest.take pageSize.toNat⟩
          (· = s.withRecord (before ++ List.replicate (n + 1) method)) := by
      rintro n token rest htoken _ rfl
      refine ⟨_, ?_, rfl⟩
      rw [ask_recorded hlive, ask_page hc hserves htoken hlive, List.append_assoc,
        ← List.replicate_succ']
    obtain ⟨t, hrun, rfl⟩ := drain_leads (n := 0)
      (P := fun n t => t = s.withRecord (before ++ List.replicate n method)) hserves.keys hfetch
      hstart hlength hc.maxPages_pos (s.withRecord before)
      (by rw [List.replicate_zero, List.append_nil])
    rw [Nat.zero_add] at hrun
    exact hrun

/-- The calls that it takes to list the categories of the spec. -/
theorem listCategories_listsFor
    (hnone : c.options.cache = true → s.state.cache.categories = none) :
    c.ListsFor .categories s p.spec.listedCategories
      (List.replicate (max 1 ((p.spec.categories.length + 249) / 250)) .listCategories) := by
  have hdrain := drain_takes hc hlive p.servesPages_categories
    (p.length_categoryListing ▸ hc.categories)
  rw [p.length_categoryListing] at hdrain
  have hfetch : Takes c.fetchCategories c.recorded.fetchCategories _ _ _ _ :=
    hdrain.bind_ofResult p.sortUnique_categoryListing
  exact listsFor_of_takes hnone hfetch fun _ => rfl

/-- The calls that it takes to list the rules of the spec. -/
theorem listRules_listsFor (hempty : c.options.cache = true → s.state.cache = {}) :
    c.ListsFor .rules s p.spec.listedRules
      (List.replicate (max 1 ((p.spec.rules.length + 249) / 250)) .listRules ++
        List.replicate (max 1 ((p.spec.categories.length + 249) / 250)) .listCategories) := by
  have hdrain := drain_takes hc hlive p.servesPages_rules (p.length_ruleListing ▸ hc.rules)
  rw [p.length_ruleListing] at hdrain
  obtain ⟨cache, hcategories, hcache⟩ := listCategories_listsFor hc hlive
    fun h => congrArg ListingCache.categories (hempty h)
  have hfetch : Takes c.fetchRules c.recorded.fetchRules _ _ _ _ :=
    hdrain.bind (hcategories.bind_ofResult p.sortUnique_ruleListing)
  exact listsFor_of_takes (fun h => congrArg ListingCache.rules (hempty h)) hfetch hcache

end

/-- A client of a provider in the same program lists what mirrors the spec, however many rules and
categories there are, and takes no more calls than there must be: those for the pages of 250 entries
that each listing has, of which there is one at least. -/
theorem listings_mirror_spec {p : Provider} {c : Client τ} (hc : c.IsLocal p) :
    ∃ rules categories, p.spec.MirroredBy rules categories ∧
      ∀ s : Session (ClientState τ), s.context.isLive →
        (c.options.cache = true → s.state.cache = {}) →
          c.ListsFor .rules s rules
            (List.replicate (max 1 ((p.spec.rules.length + 249) / 250)) .listRules ++
              List.replicate (max 1 ((p.spec.categories.length + 249) / 250)) .listCategories) ∧
          c.ListsFor .categories s categories
            (List.replicate (max 1 ((p.spec.categories.length + 249) / 250)) .listCategories) :=
  ⟨_, _, p.valid.mirroredBy, fun _ hlive hempty =>
    ⟨listRules_listsFor hc hlive hempty,
      listCategories_listsFor hc hlive fun h => congrArg ListingCache.categories (hempty h)⟩⟩

/-- `listings_mirror_spec` for a client of rules that are declared from the last to the first, each
with both categories: two calls for the two pages of rules, and one for the categories. -/
theorem listings_mirror_spec_demo :
    let c : Client Unit := ofProvider Crowd.backwardProvider { cache := true }
    c.IsLocal Crowd.backwardProvider ∧ ∃ rules categories,
      Crowd.backward.MirroredBy rules categories ∧
        c.ListsFor .rules ⟨{}, { link := () }⟩ rules [.listRules, .listRules, .listCategories] ∧
        c.ListsFor .categories ⟨{}, { link := () }⟩ categories [.listCategories] := by
  intro c
  have hrules : Crowd.backwardProvider.spec.rules.length = 260 := Crowd.length_rules_backward
  have hlocal : c.IsLocal Crowd.backwardProvider :=
    ⟨rfl, hrules.trans_le (by decide), by decide⟩
  obtain ⟨rules, categories, hmirrored, hlists⟩ := listings_mirror_spec hlocal
  have hlive : ({} : CallContext).isLive := by decide
  have hcalls := hlists ⟨{}, { link := () }⟩ hlive fun _ => rfl
  rw [hrules] at hcalls
  exact ⟨hlocal, rules, categories, hmirrored, hcalls⟩

end Client

end SchemaCheck
