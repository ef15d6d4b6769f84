import SchemaCheck.Proofs.Client.Local
import SchemaCheck.Proofs.Provider.Traversal

/-!
# What a client lists

A client of a provider in the same program lists what the spec declares, in the order of
identifiers, each rule with its categories (`Client.listRules_gives`,
`Client.listCategories_gives`). It does so from the first page to the last, with no more pages than
there must be (`Client.drain_leads`), and whether it remembers its listings or not: what it
remembers is what it would be given again (`ListingCache.Fits`).
-/

namespace SchemaCheck

/-! ## Computations that give a value -/

namespace Call

variable {σ β γ : Type} {P Q R : Session σ → Prop}

/-- In all sessions of one kind, a computation gives a value and leaves a session of another kind.
-/
def Leads (P : Session σ → Prop) (act : Call σ β) (b : β) (Q : Session σ → Prop) : Prop :=
  ∀ s, P s → ∃ t, act.runIn s = (.ok b, t) ∧ Q t

/-- In all sessions of some kind, a computation gives a value and leaves a session of that kind. -/
def Gives (P : Session σ → Prop) (act : Call σ β) (b : β) : Prop :=
  ∀ s, P s → ∃ t, act.runIn s = (.ok b, t) ∧ P t

/-- To give a value leaves the session as it is. -/
theorem gives_pure (b : β) : (pure b : Call σ β).Gives P b := fun s hs => ⟨s, rfl, hs⟩

/-- To give a result that is a value leaves the session as it is. -/
theorem gives_ofResult {r : Result β} {b : β} (h : r = .ok b) :
    (ofResult r : Call σ β).Gives P b := by
  intro s hs
  subst h
  exact ⟨s, rfl, hs⟩

/-- A computation leads to a value by way of what its first part gives. -/
theorem Leads.bind {act : Call σ β} {next : β → Call σ γ} {b : β} {c : γ} (h : act.Leads P b Q)
    (hn : (next b).Leads Q c R) : (act >>= next).Leads P c R := by
  intro s hs
  obtain ⟨t, hrun, ht⟩ := h s hs
  rw [runIn_bind, hrun]
  exact hn t ht

/-- Computations that keep the kind of session do so one after another. -/
theorem Gives.bind {act : Call σ β} {next : β → Call σ γ} {b : β} {c : γ} (h : act.Gives P b)
    (hn : (next b).Gives P c) : (act >>= next).Gives P c :=
  Leads.bind h hn

/-- A computation on a part of the state keeps the kind of session, if what it needs and does there
fits the whole. -/
theorem Gives.within {act : Call β γ} {c : γ} {Q : Session β → Prop} {slot : Slot σ β}
    (h : act.Gives Q c) (hget : ∀ s, P s → Q ⟨s.context, slot.get s.state⟩)
    (hput : ∀ s t, P s → Q t → P ⟨t.context, slot.put t.state s.state⟩) :
    (act.within slot).Gives P c := by
  intro s hs
  obtain ⟨t, hrun, ht⟩ := h _ (hget s hs)
  rw [Call.within, runIn_mk, hrun]
  exact ⟨_, rfl, hput s t hs ht⟩

end Call

/-! ## Rules with their categories -/

/-- The rule that an entry describes, with those of its categories that are known. -/
def Rule.among (known : List Category) (e : RuleEntry) : Rule :=
  ⟨e.id, e.categoryIds.filterMap fun id => known.find? fun c => c.id == id, e.isDefault, e.purpose,
    e.type, e.deprecated, e.replacementIds⟩

namespace Rule

variable {known all : List Category}

/-- A category that is known is found. -/
theorem exists_find?_eq {id : String} (h : id ∈ known.map Category.id) :
    ∃ c ∈ known, (known.find? fun c => c.id == id) = some c ∧ c.id = id := by
  obtain ⟨c, hc, rfl⟩ := List.mem_map.1 h
  cases hfind : known.find? fun d => d.id == c.id with
  | none =>
    have hne := List.find?_eq_none.1 hfind c hc
    exact absurd (beq_self_eq_true c.id) hne
  | some d => exact ⟨d, List.mem_of_find?_eq_some hfind, rfl, by simpa using List.find?_some hfind⟩

/-- When all categories of a rule are known, each is found. -/
theorem findCategories_eq_ok (ruleId : String) {ids : List String}
    (h : ∀ id ∈ ids, id ∈ known.map Category.id) : findCategories ruleId known ids
      = .ok (ids.filterMap fun id => known.find? fun c => c.id == id) := by
  induction ids with
  | nil => rfl
  | cons id ids ih =>
    obtain ⟨c, -, hfind, -⟩ := exists_find?_eq (h id List.mem_cons_self)
    rw [findCategories, hfind, ih fun id hid => h id (List.mem_cons_of_mem _ hid)]
    simp only [List.filterMap_cons, hfind]
    rfl

/-- Entries whose categories are all known describe rules. -/
theorem ofEntries_eq_ok {es : List RuleEntry}
    (h : ∀ e ∈ es, ∀ id ∈ e.categoryIds, id ∈ known.map Category.id) :
    ofEntries known es = .ok (es.map (among known)) := by
  induction es with
  | nil => rfl
  | cons e es ih =>
    have he : ofEntry e known = .ok (among known e) := by
      rw [ofEntry, findCategories_eq_ok e.id (h e List.mem_cons_self)]
      rfl
    rw [ofEntries, he, ih fun e he => h e (List.mem_cons_of_mem _ he)]
    rfl

/-- A rule whose categories are known is the same among more categories, as long as no two of these
have one identifier. -/
theorem among_eq_of_subset {e : RuleEntry} (hsub : known ⊆ all)
    (hnodup : (all.map Category.id).Nodup) (h : ∀ id ∈ e.categoryIds, id ∈ known.map Category.id) :
    among all e = among known e := by
  have hfind : e.categoryIds.filterMap (fun id => all.find? fun c => c.id == id)
      = e.categoryIds.filterMap fun id => known.find? fun c => c.id == id := by
    refine List.filterMap_congr fun id hid => ?_
    obtain ⟨c, hc, hknown, hcid⟩ := exists_find?_eq (h id hid)
    obtain ⟨d, hd, hall, hdid⟩ :=
      exists_find?_eq (List.mem_map.2 ⟨c, hsub hc, hcid⟩ : id ∈ all.map Category.id)
    rw [hknown, hall, List.inj_on_of_nodup_map hnodup hd (hsub hc) (hdid.trans hcid.symm)]
  unfold among
  rw [hfind]

end Rule

namespace Spec

variable (s : Spec)

/-- The rules of a spec as they are listed. -/
def listedRules : List Rule := sortByKey Rule.id (s.ruleEntries.map (Rule.among s.categories))

/-- The categories of a spec as they are listed. -/
def listedCategories : List Category := sortByKey Category.id s.categories

/-- The rules are listed as they are declared, in another order. -/
theorem listedRules_perm : s.listedRules.Perm (s.ruleEntries.map (Rule.among s.categories)) :=
  sortByKey_perm Rule.id _

/-- The identifiers of listed rules are those that are declared. -/
theorem map_id_listedRules_perm : (s.listedRules.map Rule.id).Perm s.ruleIds := by
  have hperm := s.listedRules_perm.map Rule.id
  rwa [List.map_map, show Rule.id ∘ Rule.among s.categories = RuleEntry.id from rfl,
    Provider.map_id_ruleEntries] at hperm

/-- The identifiers of listed categories are those that are declared. -/
theorem map_id_listedCategories_perm : (s.listedCategories.map Category.id).Perm s.categoryIds :=
  (sortByKey_perm Category.id s.categories).map Category.id

end Spec

namespace Provider

variable (p : Provider)

/-- The rules of a spec are in listed categories. -/
theorem mem_listedCategories {e : RuleEntry} (he : e ∈ p.spec.ruleEntries) :
    ∀ id ∈ e.categoryIds, id ∈ p.spec.listedCategories.map Category.id := fun id hid =>
  p.spec.map_id_listedCategories_perm.mem_iff.2 (p.valid.categoryIds_known he id hid)

/-- The rules that the provider lists are, among the listed categories, those that the spec lists.
-/
theorem map_among_ruleListing :
    p.ruleListing.map (Rule.among p.spec.listedCategories) = p.spec.listedRules := by
  have hid : ∀ e, (Rule.among p.spec.listedCategories e).id = e.id := fun _ => rfl
  have hamong : ∀ e ∈ p.spec.ruleEntries,
      Rule.among p.spec.listedCategories e = Rule.among p.spec.categories e := fun e he =>
    (Rule.among_eq_of_subset (sortByKey_perm Category.id p.spec.categories).subset
      p.valid.nodup_categoryIds (p.mem_listedCategories he)).symm
  rw [p.ruleListing_eq, map_sortByKey hid, List.map_congr_left hamong]
  rfl

/-- No rule that is served names a category that is not: each is found among those listed. -/
theorem ofEntries_ruleListing :
    Rule.ofEntries p.spec.listedCategories p.ruleListing = .ok p.spec.listedRules := by
  have hentries : ∀ e ∈ p.ruleListing, e ∈ p.spec.ruleEntries := fun e he =>
    (sortByKey_perm RuleEntry.id p.spec.ruleEntries).mem_iff.1 he
  rw [Rule.ofEntries_eq_ok fun e he => p.mem_listedCategories (hentries e he),
    p.map_among_ruleListing]

/-- The rules that a client makes of what the provider lists. -/
theorem sortUnique_ruleListing :
    (do let rules ← Rule.ofEntries p.spec.listedCategories p.ruleListing; Rule.sortUnique rules)
      = .ok p.spec.listedRules := by
  have hnodup : (p.spec.listedRules.map Rule.id).Nodup :=
    p.spec.map_id_listedRules_perm.nodup_iff.2 p.valid.nodup_ruleIds
  rw [p.ofEntries_ruleListing]
  show Rule.sortUnique p.spec.listedRules = .ok p.spec.listedRules
  rw [Rule.sortUnique_eq_ok hnodup, Spec.listedRules, sortByKey_sortByKey]

/-- The categories that a client makes of what the provider lists. -/
theorem sortUnique_categoryListing :
    Category.sortUnique p.categoryListing = .ok p.spec.listedCategories := by
  rw [Category.sortUnique_eq_ok p.nodup_categoryListing, p.categoryListing_eq, sortByKey_sortByKey]
  rfl

/-- Requests by a method are served pages of a listing, in answers that can be read back. -/
structure ServesPages {α : Type} (method : Method) (reply : Codec (PageReply α)) (key : α → String)
    (listing : List α) : Prop where
  handle : ∀ m, p.handle method (PageMessage.codec.toBytes m) = do
    let answer ← (do Served.check; Served.ofResult (page key listing m))
    return reply.toBytes answer
  reads : ∀ answer, reply.ofBytes (reply.toBytes answer) = .ok answer
  keys : KeysNonempty key listing
  nodup : (listing.map key).Nodup

/-- The provider serves its rules page by page. -/
theorem servesPages_rules :
    p.ServesPages .listRules rulesReplyCodec RuleEntry.id p.ruleListing where
  handle m := by
    rw [Provider.handle, PageMessage.ofBytes_toBytes]
    rfl
  reads := RulesReply.ofBytes_toBytes
  keys := p.keysNonempty_ruleListing
  nodup := p.nodup_ruleListing

/-- The provider serves its categories page by page. -/
theorem servesPages_categories :
    p.ServesPages .listCategories categoriesReplyCodec Category.id p.categoryListing where
  handle m := by
    rw [Provider.handle, PageMessage.ofBytes_toBytes]
    rfl
  reads := CategoriesReply.ofBytes_toBytes
  keys := p.keysNonempty_categoryListing
  nodup := p.nodup_categoryListing

/-- All rules are served. -/
theorem length_ruleListing : p.ruleListing.length = p.spec.rules.length := by
  rw [p.ruleListing_eq, (sortByKey_perm RuleEntry.id p.spec.ruleEntries).length_eq,
    Spec.ruleEntries, List.length_map]

/-- All categories are served. -/
theorem length_categoryListing : p.categoryListing.length = p.spec.categories.length := by
  rw [p.categoryListing_eq, (sortByKey_perm Category.id p.spec.categories).length_eq]

end Provider

/-! ## Listing -/

/-- What a client remembers is what the spec lists. -/
structure ListingCache.Fits (spec : Spec) (cache : ListingCache) : Prop where
  rules : ∀ entry, cache.rules = some entry → entry = .ok spec.listedRules
  categories : ∀ entry, cache.categories = some entry → entry = .ok spec.listedCategories

/-- A cache that remembers nothing fits every spec. -/
theorem ListingCache.fits_empty (spec : Spec) : ListingCache.Fits spec {} :=
  ⟨fun _ h => (nomatch h), fun _ h => (nomatch h)⟩

/-- A client of a provider in the same program, which does not give up a listing of this provider
before it is complete. -/
structure Client.IsLocal {τ : Type} (c : Client τ) (p : Provider) : Prop where
  transport : c.transport = Transport.ofProvider p
  rules : p.spec.rules.length ≤ pageSize.toNat * c.maxPages
  categories : p.spec.categories.length ≤ pageSize.toNat * c.maxPages

/-- A session in which the call goes on, and in which what the client remembers fits a spec. -/
structure ClientState.Ready {τ : Type} (spec : Spec) (s : Session (ClientState τ)) : Prop where
  live : s.context.isLive
  fits : s.state.cache.Fits spec

namespace Client

open Call

variable {σ τ α : Type} {P : Session σ → Prop} {p : Provider} {c : Client τ}
  {key : α → String} {listing rest : List α}

/-- Draining gives what a token stands for, when each page is given and there may be enough of them.
Each page leads from one kind of session to the next, and there are no more pages than there must
be. The induction is on the pages that are left. -/
theorem drain_leads {P : Nat → Session σ → Prop} {fetch : String → Call σ (PageReply α)}
    (hkeys : KeysNonempty key listing)
    (hfetch : ∀ n token rest, TokenAt key listing rest token →
      (fetch token).Leads (P n) ⟨nextToken key rest pageSize.toNat, rest.take pageSize.toNat⟩
        (P (n + 1)))
    {pages n : Nat} {token : String} (htoken : TokenAt key listing rest token)
    (hlength : rest.length ≤ pageSize.toNat * pages) (hpages : 0 < pages) :
    (drain fetch pages token).Leads (P n) rest
      (P (n + max 1 ((rest.length + pageSize.toNat - 1) / pageSize.toNat))) := by
  have hsize : 0 < pageSize.toNat := by decide
  induction pages generalizing rest token n with
  | zero => exact absurd hpages (Nat.lt_irrefl 0)
  | succ pages ih =>
    refine (hfetch n token rest htoken).bind ?_
    rcases htoken.next hkeys pageSize.toNat with ⟨hempty, hdrop⟩ | ⟨hne, hnext⟩
    · have hshort : rest.length ≤ pageSize.toNat := List.drop_eq_nil_iff.1 hdrop
      rw [hempty, List.take_of_length_le hshort, pageCount_of_le hsize hshort]
      exact gives_pure rest
    · have hne' : (nextToken key rest pageSize.toNat).isEmpty = false := by simpa using hne
      have hleft : (rest.drop pageSize.toNat).length ≤ pageSize.toNat * pages := by
        rw [List.length_drop]
        rw [Nat.mul_succ] at hlength
        exact Nat.sub_le_of_le_add hlength
      have hmore : 0 < (rest.drop pageSize.toNat).length := by
        refine List.length_pos_iff.2 fun hdrop => hne ?_
        rw [nextToken, hdrop]
        rfl
      have hlong : pageSize.toNat < rest.length := by
        rw [List.length_drop] at hmore
        exact Nat.lt_of_sub_pos hmore
      have hpages : 0 < pages := Nat.pos_of_mul_pos_left (Nat.lt_of_lt_of_le hmore hleft)
      simp only [hne', Bool.false_eq_true, if_false]
      refine (ih hnext hleft hpages).bind ?_
      rw [List.take_append_drop, pageCount_of_lt hsize hlong, List.length_drop, Nat.add_assoc n 1,
        Nat.add_comm 1]
      exact gives_pure rest

/-- Draining gives what a token stands for, when each page is given and there may be enough of them.
-/
theorem drain_gives {fetch : String → Call σ (PageReply α)} (hkeys : KeysNonempty key listing)
    (hfetch : ∀ token rest, TokenAt key listing rest token →
      (fetch token).Gives P ⟨nextToken key rest pageSize.toNat, rest.take pageSize.toNat⟩)
    {pages : Nat} {token : String} (htoken : TokenAt key listing rest token)
    (hlength : rest.length ≤ pageSize.toNat * pages) (hpages : 0 < pages) :
    (drain fetch pages token).Gives P rest :=
  drain_leads (P := fun _ => P) (n := 0) hkeys (fun _ => hfetch) htoken hlength hpages

/-- A listing is remembered as it is given. -/
theorem cached_gives {P : Session (ClientState τ) → Prop}
    {slot : Slot (ClientState τ) (Option (Result (List α)))} {fetch : Call (ClientState τ) (List α)}
    {as : List α} (hfetch : fetch.Gives P as)
    (hget : ∀ s, P s → ∀ entry, slot.get s.state = some entry → entry = .ok as)
    (hput : ∀ s, P s → P ⟨s.context, slot.put (some (.ok as)) s.state⟩) :
    (c.cached slot fetch).Gives P as := by
  unfold cached
  cases c.options.cache with
  | false => exact hfetch
  | true =>
    intro s hs
    simp only [Bool.not_true, Bool.false_eq_true, if_false, runIn_mk]
    cases hslot : slot.get s.state with
    | some entry =>
      obtain rfl := hget s hs entry hslot
      exact ⟨s, rfl, hs⟩
    | none =>
      obtain ⟨t, hrun, ht⟩ := hfetch s hs
      simp only [hrun]
      exact ⟨_, rfl, hput t ht⟩

section

variable (hc : c.IsLocal p)

include hc

/-- A client may take at least one page. -/
theorem IsLocal.maxPages_pos : 0 < c.maxPages := by
  have hrules : 0 < p.spec.rules.length :=
    List.length_pos_iff.2 (Spec.isValid_iff.1 p.valid).1
  exact Nat.pos_of_mul_pos_left (Nat.lt_of_lt_of_le hrules hc.rules)

/-- Each page is given, and the session stays as it is. -/
theorem ask_page {method : Method} {reply : Codec (PageReply α)}
    (hserves : p.ServesPages method reply key listing) {token : String}
    (htoken : TokenAt key listing rest token) {s : Session (ClientState τ)}
    (hlive : s.context.isLive) :
    (c.ask method PageMessage.codec reply ⟨pageSize, token⟩).runIn s
      = (.ok ⟨nextToken key rest pageSize.toNat, rest.take pageSize.toNat⟩, s) := by
  have hserve : (do Served.check; Served.ofResult (Provider.page key listing ⟨pageSize, token⟩) :
      Served (PageReply α)).Respects CallContext.Evolves :=
    (Served.respects_check CallContext.evolves_isChange).bind CallContext.evolves_isChange fun _ =>
      Served.respects_ofResult CallContext.evolves_isChange _
  rw [ask_ofProvider hc.transport (hserves.handle _) hserve hserves.reads hlive, Served.run_bind,
    Served.run_check, (CallContext.check_eq_ok_iff _).2 hlive]
  simp only
  rw [Served.run_ofResult,
    Provider.page_of_tokenAt (m := ⟨pageSize, token⟩) htoken hserves.keys hserves.nodup]
  rfl

/-- A listing of the provider is given from its first page to its last. -/
theorem drain_ask_gives {method : Method} {reply : Codec (PageReply α)}
    (hserves : p.ServesPages method reply key listing)
    (hlength : listing.length ≤ pageSize.toNat * c.maxPages) :
    (drain (fun token => c.ask method PageMessage.codec reply ⟨pageSize, token⟩) c.maxPages
      "").Gives (ClientState.Ready p.spec) listing :=
  drain_gives hserves.keys (fun _ _ htoken s hs => ⟨s, ask_page hc hserves htoken hs.live, hs⟩)
    (tokenAt_empty key listing) hlength hc.maxPages_pos

/-- Fetched from the provider, the categories are those of its spec. -/
theorem fetchCategories_gives :
    c.fetchCategories.Gives (ClientState.Ready p.spec) p.spec.listedCategories :=
  (drain_ask_gives hc p.servesPages_categories (p.length_categoryListing ▸ hc.categories)).bind
    (gives_ofResult p.sortUnique_categoryListing)

/-- A client lists the categories of the spec. -/
theorem listCategories_gives :
    c.listCategories.Gives (ClientState.Ready p.spec) p.spec.listedCategories :=
  cached_gives (fetchCategories_gives hc) (fun _ hs => hs.fits.categories) fun _ hs =>
    ⟨hs.live, hs.fits.rules, fun _ h => (Option.some.inj h).symm⟩

/-- Fetched from the provider, the rules are those of its spec, with their categories. -/
theorem fetchRules_gives : c.fetchRules.Gives (ClientState.Ready p.spec) p.spec.listedRules :=
  (drain_ask_gives hc p.servesPages_rules (p.length_ruleListing ▸ hc.rules)).bind
    ((listCategories_gives hc).bind (gives_ofResult p.sortUnique_ruleListing))

/-- A client lists the rules of the spec, with their categories. -/
theorem listRules_gives : c.listRules.Gives (ClientState.Ready p.spec) p.spec.listedRules :=
  cached_gives (fetchRules_gives hc) (fun _ hs => hs.fits.rules) fun _ hs =>
    ⟨hs.live, fun _ h => (Option.some.inj h).symm, hs.fits.categories⟩

end

end Client

end SchemaCheck
