import SchemaCheck.Proofs.Client.Serving

/-!
# What a client remembers of its listings

A client with a cache remembers what came of the first listing of a kind, and answers from memory
from then on, without its transport (`Client.Recalls`). What is remembered is never replaced
(`ListingCache.Grows`), and the categories of remembered rules are remembered
(`ListingCache.Coherent`), since rules are fetched with the categories that the client lists. Each
call keeps it so (`Client.next_keeps`), and so does every sequence of calls (`Client.after_keeps`),
whatever the transport answers.
-/

namespace SchemaCheck

/-- The two listings, by what they list. -/
inductive Listing : Type → Type where
  | rules : Listing Rule
  | categories : Listing Category

namespace Listing

variable {τ α : Type}

/-- What is remembered of a listing. -/
def slot : Listing α → Slot (ClientState τ) (Option (Result (List α)))
  | rules => ClientState.rulesSlot
  | categories => ClientState.categoriesSlot

/-- What is put under a listing is found there. -/
@[simp] theorem get_put (ℓ : Listing α) (x : Option (Result (List α))) (s : ClientState τ) :
    ℓ.slot.get (ℓ.slot.put x s) = x := by
  cases ℓ <;> rfl

end Listing

namespace Client

variable {τ α : Type}

/-- Fetches a listing from the provider. -/
def fetch (c : Client τ) : Listing α → Call (ClientState τ) (List α)
  | .rules => c.fetchRules
  | .categories => c.fetchCategories

/-- Lists the rules, or the categories. -/
def list (c : Client τ) : Listing α → Call (ClientState τ) (List α)
  | .rules => c.listRules
  | .categories => c.listCategories

/-- Both listings are remembered in the same way. -/
theorem list_eq_cached (c : Client τ) (ℓ : Listing α) : c.list ℓ = c.cached ℓ.slot (c.fetch ℓ) := by
  cases ℓ <;> rfl

/-- What a client may be asked. -/
inductive Question where
  | rules
  | categories
  | check (r : Request)

/-- The state in which a call with a context of its own leaves a client. -/
def next (c : Client τ) (s : ClientState τ) : Question × CallContext → ClientState τ
  | (.rules, context) => (c.listRules.runIn ⟨context, s⟩).2.state
  | (.categories, context) => (c.listCategories.runIn ⟨context, s⟩).2.state
  | (.check r, context) => ((c.check r).runIn ⟨context, s⟩).2.state

/-- The state in which calls leave a client, one after another. -/
def after (c : Client τ) (s : ClientState τ) (calls : List (Question × CallContext)) :
    ClientState τ :=
  calls.foldl c.next s

/-- The client answers from memory: in all contexts and over any transport, with no change to the
state, which is also the transport's. -/
def Recalls (c : Client τ) (s : ClientState τ) (ℓ : Listing α) (result : Result (List α)) : Prop :=
  ∀ (t : Transport τ) (context : CallContext),
    (({ c with transport := t }).list ℓ).runIn ⟨context, s⟩ = (Call.lift result, ⟨context, s⟩)

/-- What a client that remembers its listings does in a state, and after any calls that follow. -/
structure RemembersListings (c : Client τ) (s : ClientState τ) : Prop where
  /-- A listing that is given once is given again from memory. -/
  listed : ∀ {α : Type} (ℓ : Listing α) (context : CallContext) (as : List α)
    (t : Session (ClientState τ)), (c.list ℓ).runIn ⟨context, s⟩ = (.ok as, t) →
      ∀ later, c.Recalls (c.after t.state later) ℓ (.ok as)
  /-- So is a failure, by the same fault and thus with its code and text, if failures are not to be
  forgotten. -/
  failed : c.options.retryFailed = false → ∀ {α : Type} (ℓ : Listing α) (context : CallContext)
    (e : Fault) (t : Session (ClientState τ)),
      (c.list ℓ).runIn ⟨context, s⟩ = (.error (.fault e), t) →
        ∀ later, c.Recalls (c.after t.state later) ℓ (.error e)
  /-- If they are, a failure leaves nothing behind. -/
  forgotten : c.options.retryFailed = true → ∀ {α : Type} (ℓ : Listing α) (context : CallContext)
    (e : Fault) (t : Session (ClientState τ)),
      (c.list ℓ).runIn ⟨context, s⟩ = (.error (.fault e), t) → ℓ.slot.get t.state = none
  /-- Once rules are given, categories are given from memory, and those of the rules are among them.
  -/
  coherent : ∀ (context : CallContext) (rules : List Rule) (t : Session (ClientState τ)),
    c.listRules.runIn ⟨context, s⟩ = (.ok rules, t) →
      ∃ categories, (∀ rule ∈ rules, ∀ category ∈ rule.categories, category ∈ categories) ∧
        ∀ later, c.Recalls (c.after t.state later) .categories (.ok categories)

end Client

/-! ## Rules and their categories -/

namespace Rule

variable {known : List Category}

/-- The categories that are found are known. -/
theorem mem_of_findCategories {ruleId : String} {ids : List String} {cs : List Category}
    (h : findCategories ruleId known ids = .ok cs) : ∀ c ∈ cs, c ∈ known := by
  induction ids generalizing cs with
  | nil =>
    cases h
    exact fun c hc => absurd hc List.not_mem_nil
  | cons id ids ih =>
    rw [findCategories] at h
    split at h
    · cases h
    · next c hfind =>
      obtain ⟨cs', hrest, hcs⟩ := exists_of_bind_eq_ok h
      cases hcs
      exact List.forall_mem_cons.2 ⟨List.mem_of_find?_eq_some hfind, ih hrest⟩

/-- Rules that entries describe among known categories have known categories. -/
theorem categories_of_ofEntries {es : List RuleEntry} {rules : List Rule}
    (h : ofEntries known es = .ok rules) :
    ∀ rule ∈ rules, ∀ category ∈ rule.categories, category ∈ known := by
  induction es generalizing rules with
  | nil =>
    cases h
    exact fun rule hrule => absurd hrule List.not_mem_nil
  | cons e es ih =>
    obtain ⟨rule, hrule, h⟩ := exists_of_bind_eq_ok h
    obtain ⟨rules', hrest, h⟩ := exists_of_bind_eq_ok h
    obtain ⟨cs, hfind, hrule⟩ := exists_of_bind_eq_ok hrule
    cases h
    cases hrule
    exact List.forall_mem_cons.2 ⟨mem_of_findCategories hfind, ih hrest⟩

/-- Rules that entries describe among known categories have known categories, also once they are in
order. -/
theorem categories_of_sortUnique {es : List RuleEntry} {listed : List Rule}
    (h : (do let rules ← ofEntries known es; sortUnique rules) = .ok listed) :
    ∀ rule ∈ listed, ∀ category ∈ rule.categories, category ∈ known := by
  obtain ⟨rules, hrules, h⟩ := exists_of_bind_eq_ok h
  obtain ⟨-, -, h⟩ := exists_of_bind_eq_ok h
  cases h
  exact fun rule hrule =>
    categories_of_ofEntries hrules rule ((List.mergeSort_perm rules _).mem_iff.1 hrule)

end Rule

/-! ## What is remembered stays -/

/-- What one cache remembers another remembers too. -/
structure ListingCache.Grows (cache later : ListingCache) : Prop where
  rules : ∀ entry, cache.rules = some entry → later.rules = some entry
  categories : ∀ entry, cache.categories = some entry → later.categories = some entry

/-- What a cache may remember: with rules also categories, among which are those of the rules; and
no failure, if failures are to be forgotten. -/
structure ListingCache.Coherent (options : ClientOptions) (cache : ListingCache) : Prop where
  covered : ∀ rules, cache.rules = some (.ok rules) →
    ∃ categories, cache.categories = some (.ok categories) ∧
      ∀ rule ∈ rules, ∀ category ∈ rule.categories, category ∈ categories
  rules : options.retryFailed = true → ∀ e, cache.rules ≠ some (.error e)
  categories : options.retryFailed = true → ∀ e, cache.categories ≠ some (.error e)

namespace ListingCache

variable {cache later latest : ListingCache} {options : ClientOptions}

/-- A cache has grown out of itself. -/
@[refl] theorem Grows.refl (cache : ListingCache) : cache.Grows cache :=
  ⟨fun _ => id, fun _ => id⟩

/-- What has grown twice has grown. -/
theorem Grows.trans (h : cache.Grows later) (h' : later.Grows latest) : cache.Grows latest :=
  ⟨fun entry he => h'.rules entry (h.rules entry he),
    fun entry he => h'.categories entry (h.categories entry he)⟩

/-- A cache that remembers nothing is coherent. -/
theorem coherent_empty (options : ClientOptions) : Coherent options {} :=
  ⟨fun _ h => (nomatch h), fun _ _ h => (nomatch h), fun _ _ h => (nomatch h)⟩

/-- Without categories no rules are remembered. -/
theorem Coherent.rules_ne_ok (hcache : cache.Coherent options) (h : cache.categories = none)
    (rules : List Rule) : cache.rules ≠ some (.ok rules) := by
  intro hrules
  obtain ⟨categories, hcategories, -⟩ := hcache.covered rules hrules
  exact absurd (h.symm.trans hcategories) (by simp)

end ListingCache

namespace Listing

variable {τ α : Type} {s t : ClientState τ} {options : ClientOptions} (ℓ : Listing α)

/-- A cache that has grown remembers a listing as it was. -/
theorem get_of_grows (h : s.cache.Grows t.cache) {entry : Result (List α)}
    (hs : ℓ.slot.get s = some entry) : ℓ.slot.get t = some entry := by
  cases ℓ with
  | rules => exact h.rules entry hs
  | categories => exact h.categories entry hs

/-- What was not remembered is added to what is. -/
theorem grows_put (h : ℓ.slot.get s = none) (x : Option (Result (List α))) :
    s.cache.Grows (ℓ.slot.put x s).cache := by
  cases ℓ with
  | rules => exact ⟨fun entry he => absurd (h.symm.trans he) (by simp), fun _ => id⟩
  | categories => exact ⟨fun _ => id, fun entry he => absurd (h.symm.trans he) (by simp)⟩

/-- A coherent cache remembers no failure that is to be forgotten. -/
theorem get_ne_error (h : s.cache.Coherent options) (hretry : options.retryFailed = true)
    (e : Fault) : ℓ.slot.get s ≠ some (.error e) := by
  cases ℓ with
  | rules => exact h.rules hretry e
  | categories => exact h.categories hretry e

/-- A failure may be remembered of a listing of which nothing was. -/
theorem coherent_put_error (hs : s.cache.Coherent options) (hretry : options.retryFailed = false)
    (h : ℓ.slot.get s = none) (e : Fault) :
    (ℓ.slot.put (some (.error e)) s).cache.Coherent options := by
  have hnot : options.retryFailed ≠ true := by simp [hretry]
  cases ℓ with
  | rules =>
    exact ⟨fun _ h => (nomatch h), fun hr => absurd hr hnot, fun hr => absurd hr hnot⟩
  | categories =>
    exact ⟨fun rules hrules => absurd hrules (hs.rules_ne_ok h rules), fun hr => absurd hr hnot,
      fun hr => absurd hr hnot⟩

/-- Rules may be remembered once all of their categories are. -/
theorem coherent_put_rules (hs : s.cache.Coherent options) {rules : List Rule}
    {categories : List Category} (hcategories : s.cache.categories = some (.ok categories))
    (h : ∀ rule ∈ rules, ∀ category ∈ rule.categories, category ∈ categories) :
    (Listing.rules.slot.put (some (.ok rules)) s).cache.Coherent options := by
  refine ⟨fun rules' hrules => ?_, fun _ e h => (nomatch h), hs.categories⟩
  cases hrules
  exact ⟨categories, hcategories, h⟩

/-- Categories may be remembered when none were. -/
theorem coherent_put_categories (hs : s.cache.Coherent options) (categories : List Category)
    (h : s.cache.categories = none) :
    (Listing.categories.slot.put (some (.ok categories)) s).cache.Coherent options :=
  ⟨fun rules hrules => absurd hrules (hs.rules_ne_ok h rules), hs.rules,
    fun _ _ h => (nomatch h)⟩

end Listing

/-- A result is lifted to a value just when it is one. -/
theorem Call.lift_eq_ok_iff {α : Type} {r : Result α} {a : α} : lift r = .ok a ↔ r = .ok a := by
  cases r <;> simp [lift]

namespace Client

open Call

variable {τ α : Type} {c : Client τ}

/-! ## One listing -/

/-- What comes of a listing with a cache: it is answered from memory, or what is fetched is
remembered, as a failure is if it is not to be forgotten. -/
inductive Lists (c : Client τ) (ℓ : Listing α) (s : Session (ClientState τ)) :
    Except Stop (List α) → Session (ClientState τ) → Prop where
  | recalled {entry : Result (List α)} : ℓ.slot.get s.state = some entry →
      Lists c ℓ s (lift (remembered entry)) s
  | listed {as : List α} {t : Session (ClientState τ)} : ℓ.slot.get s.state = none →
      (c.fetch ℓ).runIn s = (.ok as, t) →
      Lists c ℓ s (.ok as) { t with state := ℓ.slot.put (some (.ok as)) t.state }
  | failed {e : Fault} {t : Session (ClientState τ)} : ℓ.slot.get s.state = none →
      (c.fetch ℓ).runIn s = (.error (.fault e), t) → c.options.retryFailed = false →
      Lists c ℓ s (.error (.fault (.shared e)))
        { t with state := ℓ.slot.put (some (.error e)) t.state }
  | forgotten {e : Fault} {t : Session (ClientState τ)} : ℓ.slot.get s.state = none →
      (c.fetch ℓ).runIn s = (.error (.fault e), t) → c.options.retryFailed = true →
      Lists c ℓ s (.error (.fault e)) t
  | unfinished {t : Session (ClientState τ)} : ℓ.slot.get s.state = none →
      (c.fetch ℓ).runIn s = (.error .unfinished, t) → Lists c ℓ s (.error .unfinished) t

/-- What is remembered is the answer. -/
theorem list_of_get (hcache : c.options.cache = true) {ℓ : Listing α} {s : Session (ClientState τ)}
    {entry : Result (List α)} (h : ℓ.slot.get s.state = some entry) :
    (c.list ℓ).runIn s = (lift (remembered entry), s) := by
  simp only [list_eq_cached, cached, hcache, Bool.not_true, Bool.false_eq_true, if_false, runIn_mk,
    h]

/-- What is left of a run that fetches a listing: what came of it is remembered, except a failure
that is to be forgotten. -/
def kept (options : ClientOptions) (ℓ : Listing α) :
    Except Stop (List α) × Session (ClientState τ) → Except Stop (List α) × Session (ClientState τ)
  | (.ok as, t) => (.ok as, { t with state := ℓ.slot.put (some (.ok as)) t.state })
  | (.error (.fault e), t) =>
    if options.retryFailed then (.error (.fault e), t)
    else (.error (.fault (.shared e)), { t with state := ℓ.slot.put (some (.error e)) t.state })
  | (.error .unfinished, t) => (.error .unfinished, t)

/-- A client with a cache fetches a listing that it does not remember. -/
theorem list_of_none (hcache : c.options.cache = true) {ℓ : Listing α}
    {s : Session (ClientState τ)} (hnone : ℓ.slot.get s.state = none) :
    (c.list ℓ).runIn s = kept c.options ℓ ((c.fetch ℓ).runIn s) := by
  simp only [list_eq_cached, cached, hcache, Bool.not_true, Bool.false_eq_true, if_false, runIn_mk,
    hnone]
  rfl

/-- A client without a cache fetches every listing. -/
theorem list_eq_fetch (hcache : c.options.cache = false) (ℓ : Listing α) :
    c.list ℓ = c.fetch ℓ := by
  simp only [list_eq_cached, cached, hcache, Bool.not_false, if_true]

/-- A client with a cache lists in one of the ways that there are. -/
theorem lists_list (hcache : c.options.cache = true) (ℓ : Listing α)
    (s : Session (ClientState τ)) :
    c.Lists ℓ s ((c.list ℓ).runIn s).1 ((c.list ℓ).runIn s).2 := by
  cases hget : ℓ.slot.get s.state with
  | some entry =>
    rw [list_of_get hcache hget]
    exact .recalled hget
  | none =>
    rw [list_of_none hcache hget]
    cases hfetch : (c.fetch ℓ).runIn s with
    | mk result t =>
      match result with
      | .ok as => exact .listed hget hfetch
      | .error .unfinished => exact .unfinished hget hfetch
      | .error (.fault e) =>
        simp only [kept]
        cases hretry : c.options.retryFailed with
        | true => exact .forgotten hget hfetch hretry
        | false => exact .failed hget hfetch hretry

/-- What fetching a listing does to what is remembered: it grows, stays coherent, and has nothing of
the listing itself, which may be added then. -/
structure Fetches (c : Client τ) (ℓ : Listing α) (s : ClientState τ) (result : Except Stop (List α))
    (t : ClientState τ) : Prop where
  grows : s.cache.Grows t.cache
  coherent : t.cache.Coherent c.options
  missing : ℓ.slot.get t = none
  listed : ∀ as, result = .ok as → (ℓ.slot.put (some (.ok as)) t).cache.Coherent c.options

/-- What a listing does to what is remembered: it grows, stays coherent, and has the outcome of the
listing. -/
structure Keeps (c : Client τ) (ℓ : Listing α) (s : ClientState τ) (result : Except Stop (List α))
    (t : ClientState τ) : Prop where
  grows : s.cache.Grows t.cache
  coherent : t.cache.Coherent c.options
  listed : ∀ as, result = .ok as → ℓ.slot.get t = some (.ok as)
  failed : c.options.retryFailed = false → ∀ e, result = .error (.fault e) →
    ∃ cause, e = .shared cause ∧ ℓ.slot.get t = some (.error cause)
  forgotten : c.options.retryFailed = true → ∀ e, result = .error (.fault e) → ℓ.slot.get t = none

/-- A listing keeps what is remembered when fetching it does. -/
theorem Lists.keeps {ℓ : Listing α} {s t : Session (ClientState τ)} {result : Except Stop (List α)}
    (h : c.Lists ℓ s result t) (hs : s.state.cache.Coherent c.options)
    (hfetch : ℓ.slot.get s.state = none →
      c.Fetches ℓ s.state ((c.fetch ℓ).runIn s).1 ((c.fetch ℓ).runIn s).2.state) :
    c.Keeps ℓ s.state result t.state := by
  cases h with
  | @recalled entry hget =>
    refine ⟨.refl _, hs, fun as h => ?_, fun _ e h => ?_, fun hretry e h => ?_⟩
    · cases entry with
      | ok as' => cases h; exact hget
      | error e => cases h
    · cases entry with
      | ok as => cases h
      | error cause => cases h; exact ⟨cause, rfl, hget⟩
    · cases entry with
      | ok as => cases h
      | error cause => exact absurd hget (ℓ.get_ne_error hs hretry cause)
  | @listed as t hnone hrun =>
    obtain ⟨hgrows, -, hmissing, hlisted⟩ := hrun ▸ hfetch hnone
    refine ⟨hgrows.trans (ℓ.grows_put hmissing _), hlisted as rfl, fun as' h => ?_,
      fun _ e h => (nomatch h), fun _ e h => (nomatch h)⟩
    cases h
    exact ℓ.get_put _ _
  | @failed e t hnone hrun hretry =>
    obtain ⟨hgrows, hcoherent, hmissing, -⟩ := hrun ▸ hfetch hnone
    refine ⟨hgrows.trans (ℓ.grows_put hmissing _), ℓ.coherent_put_error hcoherent hretry hmissing e,
      fun as h => (nomatch h), fun _ e' h => ?_, fun hretry' => by simp [hretry] at hretry'⟩
    cases h
    exact ⟨e, rfl, ℓ.get_put _ _⟩
  | @forgotten e t hnone hrun hretry =>
    obtain ⟨hgrows, hcoherent, hmissing, -⟩ := hrun ▸ hfetch hnone
    exact ⟨hgrows, hcoherent, fun as h => (nomatch h), fun hretry' => by simp [hretry] at hretry',
      fun _ _ _ => hmissing⟩
  | @unfinished t hnone hrun =>
    obtain ⟨hgrows, hcoherent, -, -⟩ := hrun ▸ hfetch hnone
    exact ⟨hgrows, hcoherent, fun as h => (nomatch h), fun _ e h => (nomatch h),
      fun _ e h => (nomatch h)⟩

/-! ## Fetching -/

/-- To drain pages remembers nothing when it does not to fetch one. -/
theorem drain_keepsCache {fetch : String → Call (ClientState τ) (PageReply α)}
    (h : ∀ token, KeepsCache (fetch token)) (pages : Nat) (token : String) :
    KeepsCache (drain fetch pages token) := by
  induction pages generalizing token with
  | zero => exact fun _ => rfl
  | succ n ih =>
    refine (h token).bind fun page => ?_
    split
    · exact fun _ => rfl
    · exact (ih _).bind fun _ _ => rfl

/-- The fetching of categories remembers nothing; what is fetched is remembered afterwards. -/
theorem fetchCategories_keepsCache (c : Client τ) : KeepsCache c.fetchCategories :=
  (drain_keepsCache (fun _ => c.ask_keepsCache _ _ _ _) _ _).bind fun _ _ => rfl

/-- Fetched categories may be remembered. -/
theorem fetchCategories_fetches {s : Session (ClientState τ)}
    (hs : s.state.cache.Coherent c.options) (hnone : s.state.cache.categories = none) :
    c.Fetches .categories s.state (c.fetchCategories.runIn s).1
      (c.fetchCategories.runIn s).2.state := by
  have hkeeps := c.fetchCategories_keepsCache s
  generalize c.fetchCategories.runIn s = run at hkeeps ⊢
  have hmissing : run.2.state.cache.categories = none := hkeeps ▸ hnone
  exact ⟨hkeeps ▸ .refl _, hkeeps ▸ hs, hmissing,
    fun as _ => Listing.coherent_put_categories (hkeeps ▸ hs) as hmissing⟩

/-- Listing the categories keeps what is remembered, and leaves the rules alone. -/
theorem listCategories_keeps (hcache : c.options.cache = true) {s : Session (ClientState τ)}
    (hs : s.state.cache.Coherent c.options) :
    c.Keeps .categories s.state (c.listCategories.runIn s).1 (c.listCategories.runIn s).2.state :=
  (lists_list hcache .categories s).keeps hs (fetchCategories_fetches hs)

/-- Listing the categories leaves what is remembered of the rules alone. -/
theorem rules_listCategories (hcache : c.options.cache = true) (s : Session (ClientState τ)) :
    (c.listCategories.runIn s).2.state.cache.rules = s.state.cache.rules := by
  have hkeeps := congrArg ListingCache.rules (c.fetchCategories_keepsCache s)
  have hlists := lists_list hcache .categories s
  show ((c.list .categories).runIn s).2.state.cache.rules = _
  generalize (c.list .categories).runIn s = run at hlists ⊢
  obtain ⟨result, t⟩ := run
  cases hlists with
  | recalled => rfl
  | listed _ hrun | failed _ hrun | forgotten _ hrun | unfinished _ hrun =>
    have hrun : c.fetchCategories.runIn s = _ := hrun
    rw [hrun] at hkeeps
    exact hkeeps

/-- Fetched rules may be remembered: the categories that they are in are remembered by then. -/
theorem fetchRules_fetches (hcache : c.options.cache = true) {s : Session (ClientState τ)}
    (hs : s.state.cache.Coherent c.options) (hnone : s.state.cache.rules = none) :
    c.Fetches .rules s.state (c.fetchRules.runIn s).1 (c.fetchRules.runIn s).2.state := by
  have hdrain := drain_keepsCache (fun token =>
    c.ask_keepsCache .listRules PageMessage.codec rulesReplyCodec ⟨pageSize, token⟩) c.maxPages "" s
  rw [fetchRules, runIn_bind]
  generalize (drain _ c.maxPages "").runIn s = run at hdrain ⊢
  obtain ⟨result, t⟩ := run
  have hdrain : t.state.cache = s.state.cache := hdrain
  have hgrows : s.state.cache.Grows t.state.cache := hdrain ▸ .refl _
  have ht : t.state.cache.Coherent c.options := hdrain ▸ hs
  have hmissing : t.state.cache.rules = none := hdrain ▸ hnone
  cases result with
  | error e => exact ⟨hgrows, ht, hmissing, fun as h => (nomatch h)⟩
  | ok entries =>
    have hkeeps := listCategories_keeps hcache ht
    have hrules := rules_listCategories hcache t
    simp only
    rw [runIn_bind]
    generalize c.listCategories.runIn t = run at hkeeps hrules ⊢
    obtain ⟨result, u⟩ := run
    have hgrows' : s.state.cache.Grows u.state.cache := hgrows.trans hkeeps.grows
    have hmissing' : u.state.cache.rules = none := hrules.trans hmissing
    cases result with
    | error e => exact ⟨hgrows', hkeeps.coherent, hmissing', fun as h => (nomatch h)⟩
    | ok categories =>
      simp only [runIn_ofResult]
      refine ⟨hgrows', hkeeps.coherent, hmissing', fun rules h => ?_⟩
      exact Listing.coherent_put_rules hkeeps.coherent (hkeeps.listed categories rfl)
        (Rule.categories_of_sortUnique (lift_eq_ok_iff.1 h))

/-- Every listing keeps what is remembered. -/
theorem list_keeps (hcache : c.options.cache = true) (ℓ : Listing α) {s : Session (ClientState τ)}
    (hs : s.state.cache.Coherent c.options) :
    c.Keeps ℓ s.state ((c.list ℓ).runIn s).1 ((c.list ℓ).runIn s).2.state :=
  (lists_list hcache ℓ s).keeps hs <| match ℓ with
    | .rules => fetchRules_fetches hcache hs
    | .categories => fetchCategories_fetches hs

/-! ## Many calls -/

section

variable (hcache : c.options.cache = true) {s : ClientState τ}

include hcache

/-- One call keeps what is remembered, and leaves it coherent. -/
theorem next_keeps (call : Question × CallContext) (hs : s.cache.Coherent c.options) :
    s.cache.Grows (c.next s call).cache ∧ (c.next s call).cache.Coherent c.options := by
  obtain ⟨question, context⟩ := call
  cases question with
  | rules =>
    have hkeeps := list_keeps hcache .rules (s := ⟨context, s⟩) hs
    exact ⟨hkeeps.grows, hkeeps.coherent⟩
  | categories =>
    have hkeeps := list_keeps hcache .categories (s := ⟨context, s⟩) hs
    exact ⟨hkeeps.grows, hkeeps.coherent⟩
  | check r =>
    have hkeeps : (c.next s (.check r, context)).cache = s.cache :=
      c.check_keepsCache r ⟨context, s⟩
    exact ⟨hkeeps ▸ .refl _, hkeeps ▸ hs⟩

/-- Calls keep what is remembered, and leave it coherent. The induction is on the calls. -/
theorem after_keeps (calls : List (Question × CallContext)) (hs : s.cache.Coherent c.options) :
    s.cache.Grows (c.after s calls).cache ∧ (c.after s calls).cache.Coherent c.options := by
  induction calls generalizing s with
  | nil => exact ⟨.refl _, hs⟩
  | cons call calls ih =>
    obtain ⟨hgrows, hcoherent⟩ := next_keeps hcache call hs
    obtain ⟨hgrows', hcoherent'⟩ := ih hcoherent
    exact ⟨hgrows.trans hgrows', hcoherent'⟩

/-- What is remembered is the answer after any more calls. -/
theorem recalls_after {ℓ : Listing α} {entry : Result (List α)} (hs : s.cache.Coherent c.options)
    (h : ℓ.slot.get s = some entry) (later : List (Question × CallContext)) :
    c.Recalls (c.after s later) ℓ (remembered entry) := by
  have hget := ℓ.get_of_grows (after_keeps hcache later hs).1 h
  exact fun t context => list_of_get (c := { c with transport := t }) hcache hget

end

/-- A client that remembers its listings, over any transport and after any calls: what it lists once
it lists again, without its transport. -/
theorem listings_remembered (hcache : c.options.cache = true) (link : τ)
    (calls : List (Question × CallContext)) :
    c.RemembersListings (c.after { link } calls) := by
  have hs : (c.after { link } calls).cache.Coherent c.options :=
    (after_keeps hcache calls (ListingCache.coherent_empty c.options)).2
  have hkeeps : ∀ {α : Type} (ℓ : Listing α) (context : CallContext) (result : Except Stop (List α))
      (t : Session (ClientState τ)),
      (c.list ℓ).runIn ⟨context, c.after { link } calls⟩ = (result, t) →
        c.Keeps ℓ (c.after { link } calls) result t.state := by
    intro α ℓ context result t hrun
    have hkeeps := list_keeps hcache ℓ (s := ⟨context, c.after { link } calls⟩) hs
    rwa [hrun] at hkeeps
  refine ⟨fun ℓ context as t hrun => ?_, fun hretry α ℓ context e t hrun => ?_,
    fun hretry α ℓ context e t hrun => ?_, fun context rules t hrun => ?_⟩
  · have hkept := hkeeps ℓ context _ t hrun
    exact recalls_after hcache hkept.coherent (hkept.listed as rfl)
  · have hkept := hkeeps ℓ context _ t hrun
    obtain ⟨cause, rfl, hget⟩ := hkept.failed hretry e rfl
    exact recalls_after hcache hkept.coherent hget
  · exact (hkeeps ℓ context _ t hrun).forgotten hretry e rfl
  · have hkept := hkeeps .rules context _ t hrun
    obtain ⟨categories, hget, hcover⟩ := hkept.coherent.covered rules (hkept.listed rules rfl)
    exact ⟨categories, hcover, recalls_after hcache hkept.coherent (ℓ := .categories) hget⟩

/-- `listings_remembered` for a client of the demonstration rules about files: it lists the rules of
the spec, and then lists them from memory. -/
theorem listings_remembered_demo :
    let c : Client Unit := ofProvider Demo.fileProvider { cache := true }
    c.options.cache = true ∧ ∃ t, c.listRules.runIn ⟨{}, { link := () }⟩
      = (.ok Demo.fileSpec.listedRules, t) ∧
        c.Recalls t.state .rules (.ok Demo.fileSpec.listedRules) := by
  intro c
  have hlocal : c.IsLocal Demo.fileProvider := ⟨rfl, by decide, by decide⟩
  have hready : ClientState.Ready Demo.fileProvider.spec ⟨{}, { link := () }⟩ :=
    ⟨by decide, ListingCache.fits_empty _⟩
  obtain ⟨t, hrun, -⟩ := listRules_gives hlocal _ hready
  exact ⟨rfl, t, hrun, (listings_remembered (c := c) rfl () []).listed .rules {} _ t hrun []⟩

end Client

end SchemaCheck
