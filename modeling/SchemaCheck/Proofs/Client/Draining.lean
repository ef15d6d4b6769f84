import SchemaCheck.Proofs.Client.Log
import SchemaCheck.Proofs.Client.Settling

/-!
# Draining the listings of any provider

What a client lists when nothing is known of the provider, whose answers may be anything and may
depend on all that was asked before: tokens may repeat, pages may be empty or overlap, and there
need not be a last one. A listing is drained page by page, each asked for with the token of the one
before, up to the first page without a token or the first call that fails (`Transport.Drains`). This
ends just when there is such a page or call (`Transport.exists_drains_iff`). What comes of the
entries is settled when they are all there: `Client.listRules_drains`.
-/

namespace SchemaCheck

/-! ## Pages -/

/-- An answer after which no other page is asked for: a fault, or a page without a token. -/
def IsLast {α : Type} (answer : Result (PageReply α)) : Prop :=
  ∀ page, answer = .ok page → page.nextPageToken = ""

namespace Transport

variable {τ α : Type}

/-- What comes of asking for a page, and the session that this leaves. When the call is over nothing
is asked. -/
def page (t : Transport τ) (m : Method) (reply : Codec (PageReply α)) (token : String)
    (s : Session τ) : Result (PageReply α) × Session τ :=
  match s.context.check with
  | .error e => (.error e, s)
  | .ok () =>
    let a := t m (PageMessage.codec.toBytes ⟨250, token⟩) s.context s.state
    (a.result >>= reply.ofBytes, ⟨a.after s.context, a.state⟩)

/-- The call that is made for a page, unless the call that it is a part of is over. -/
def pageCalls (t : Transport τ) (m : Method) (token : String) (s : Session τ) : List LoggedCall :=
  if s.context.isLive then
    [t.entry none m (PageMessage.codec.toBytes ⟨250, token⟩) s.context s.state]
  else []

/-- From a session, a listing is drained from the page at a token on: up to the first page without a
token, or the first that there is no answer to. The calls that are made are listed, and the pages
that are read. -/
inductive Drains (t : Transport τ) (m : Method) (reply : Codec (PageReply α)) :
    String → Session τ → List LoggedCall → List (PageReply α) → Result Unit → Session τ → Prop where
  | fails {token : String} {s u : Session τ} {e : Fault} :
      t.page m reply token s = (.error e, u) →
      Drains t m reply token s (t.pageCalls m token s) [] (.error e) u
  | last {token : String} {s u : Session τ} {page : PageReply α} :
      t.page m reply token s = (.ok page, u) → page.nextPageToken = "" →
      Drains t m reply token s (t.pageCalls m token s) [page] (.ok ()) u
  | next {token : String} {s v u : Session τ} {page : PageReply α} {calls : List LoggedCall}
      {pages : List (PageReply α)} {result : Result Unit} :
      t.page m reply token s = (.ok page, v) → page.nextPageToken ≠ "" →
      Drains t m reply page.nextPageToken v calls pages result u →
      Drains t m reply token s (t.pageCalls m token s ++ calls) (page :: pages) result u

/-- The answer with a number, when each is asked for with the token of the one before it, whatever
this is. No call is made after one that fails. -/
def answer (t : Transport τ) (m : Method) (reply : Codec (PageReply α)) :
    Nat → String → Session τ → Result (PageReply α)
  | 0, token, s => (t.page m reply token s).1
  | k + 1, token, s =>
    match t.page m reply token s with
    | (.ok page, u) => t.answer m reply k page.nextPageToken u
    | (.error e, _) => .error e

variable {t : Transport τ} {m : Method} {reply : Codec (PageReply α)} {token : String}
  {s u : Session τ} {calls : List LoggedCall} {pages : List (PageReply α)} {result : Result Unit}

/-- At most one call is made for a page, and one for a page that is read. -/
theorem length_pageCalls_le : (t.pageCalls m token s).length ≤ 1 := by
  unfold pageCalls
  split
  · exact Nat.le_refl _
  · exact Nat.zero_le _

/-- For a page that is read one call is made. -/
theorem length_pageCalls {page : PageReply α} (h : t.page m reply token s = (.ok page, u)) :
    (t.pageCalls m token s).length = 1 := by
  have hlive : s.context.isLive := by
    unfold Transport.page at h
    split at h
    · cases h
    · next hcheck => exact (CallContext.check_eq_ok_iff _).1 hcheck
  rw [pageCalls, if_pos hlive, List.length_singleton]

/-- No more pages are read than calls are made. -/
theorem Drains.length_pages_le (h : t.Drains m reply token s calls pages result u) :
    pages.length ≤ calls.length := by
  induction h with
  | fails => exact Nat.zero_le _
  | last hpage => exact Nat.le_of_eq (length_pageCalls hpage).symm
  | next hpage _ _ ih =>
    rw [List.length_append, length_pageCalls hpage, List.length_cons]
    omega

/-- Draining stops at the first answer that is a last one: one call was made for each answer before
it, and one for this, unless the call was over by then. -/
theorem Drains.stops (h : t.Drains m reply token s calls pages result u) :
    ∃ k, IsLast (t.answer m reply k token s) ∧ (∀ j < k, ¬ IsLast (t.answer m reply j token s)) ∧
      k ≤ calls.length ∧ calls.length ≤ k + 1 := by
  induction h with
  | fails hpage =>
    refine ⟨0, fun page h => ?_, fun j hj => absurd hj (Nat.not_lt_zero j), Nat.zero_le _,
      length_pageCalls_le⟩
    rw [answer, hpage] at h
    cases h
  | last hpage hlast =>
    refine ⟨0, fun page h => ?_, fun j hj => absurd hj (Nat.not_lt_zero j), Nat.zero_le _,
      length_pageCalls_le⟩
    rw [answer, hpage] at h
    cases h
    exact hlast
  | next hpage hmore _ ih =>
    obtain ⟨k, hlast, hfirst, hle, hge⟩ := ih
    refine ⟨k + 1, ?_, fun j hj => ?_, ?_, ?_⟩
    · rwa [answer, hpage]
    · cases j with
      | zero =>
        intro h
        rw [answer, hpage] at h
        exact hmore (h _ rfl)
      | succ j =>
        rw [answer, hpage]
        exact hfirst j (Nat.lt_of_succ_lt_succ hj)
    · rw [List.length_append, length_pageCalls hpage]
      omega
    · rw [List.length_append, length_pageCalls hpage]
      omega

/-- A listing is drained just when some answer is a last one. -/
theorem exists_drains_iff :
    (∃ calls pages result u, t.Drains m reply token s calls pages result u) ↔
      ∃ k, IsLast (t.answer m reply k token s) := by
  constructor
  · rintro ⟨calls, pages, result, u, h⟩
    obtain ⟨k, hlast, -⟩ := h.stops
    exact ⟨k, hlast⟩
  · rintro ⟨k, hk⟩
    induction k generalizing token s with
    | zero =>
      cases hpage : t.page m reply token s with
      | mk result u =>
        rw [answer, hpage] at hk
        cases result with
        | error e => exact ⟨_, _, _, _, .fails hpage⟩
        | ok page => exact ⟨_, _, _, _, .last hpage (hk page rfl)⟩
    | succ k ih =>
      cases hpage : t.page m reply token s with
      | mk result u =>
        rw [answer, hpage] at hk
        cases result with
        | error e => exact ⟨_, _, _, _, .fails hpage⟩
        | ok page =>
          by_cases hlast : page.nextPageToken = ""
          · exact ⟨_, _, _, _, .last hpage hlast⟩
          · obtain ⟨calls, pages, result, v, hrest⟩ := ih hk
            exact ⟨_, _, _, _, .next hpage hlast hrest⟩

/-- Over the transport that keeps a log the same comes of asking for a page, and the call is logged.
-/
theorem page_logged {answer : Result (PageReply α)} (h : t.page m reply token s = (answer, u))
    (log : List LoggedCall) : (t.logged none).page m reply token ⟨s.context, (s.state, log)⟩
      = (answer, ⟨u.context, (u.state, log ++ t.pageCalls m token s)⟩) := by
  obtain rfl : (t.page m reply token s).1 = answer := congrArg Prod.fst h
  obtain rfl : (t.page m reply token s).2 = u := congrArg Prod.snd h
  unfold Transport.page pageCalls
  cases hcheck : s.context.check with
  | error e =>
    have hlive : ¬ s.context.isLive := CallContext.not_isLive_of_check hcheck
    simp only [if_neg hlive, List.append_nil]
  | ok _ =>
    have hlive := (CallContext.check_eq_ok_iff _).1 hcheck
    simp only [if_pos hlive]
    rfl

/-- Over the transport that keeps a log the same is drained, and the calls are logged. -/
theorem Drains.logged (h : t.Drains m reply token s calls pages result u) (log : List LoggedCall) :
    (t.logged none).Drains m reply token ⟨s.context, (s.state, log)⟩ calls pages result
      ⟨u.context, (u.state, log ++ calls)⟩ := by
  induction h generalizing log with
  | fails hpage => exact .fails (page_logged hpage log)
  | last hpage hlast => exact .last (page_logged hpage log) hlast
  | next hpage hmore _ ih =>
    rw [← List.append_assoc]
    exact .next (page_logged hpage log) hmore (ih _)

end Transport

/-! ## Listings -/

namespace Transport

variable {τ : Type}

/-- From a session, the categories of a provider are listed with some calls: they are drained, and
what comes of them is settled; unless a call fails, with whose fault the listing fails. -/
inductive ListsCategories (t : Transport τ) :
    Session τ → List LoggedCall → Result (List Category) → Session τ → Prop where
  | fails {s u : Session τ} {calls : List LoggedCall} {pages : List CategoriesReply} {e : Fault} :
      t.Drains .listCategories categoriesReplyCodec "" s calls pages (.error e) u →
      ListsCategories t s calls (.error e) u
  | drained {s u : Session τ} {calls : List LoggedCall} {pages : List CategoriesReply}
      {result : Result (List Category)} :
      t.Drains .listCategories categoriesReplyCodec "" s calls pages (.ok ()) u →
      Listing.categories.Settles (pages.flatMap PageReply.entries) result →
      ListsCategories t s calls result u

/-- From a session, the rules of a provider are listed with some calls: they are drained, then the
categories are listed, and what comes of the rules among these is settled; unless a call fails, or
the categories cannot be listed. -/
inductive ListsRules (t : Transport τ) :
    Session τ → List LoggedCall → Result (List Rule) → Session τ → Prop where
  | fails {s u : Session τ} {calls : List LoggedCall} {pages : List RulesReply} {e : Fault} :
      t.Drains .listRules rulesReplyCodec "" s calls pages (.error e) u →
      ListsRules t s calls (.error e) u
  | categoriesFail {s v u : Session τ} {calls calls' : List LoggedCall} {pages : List RulesReply}
      {e : Fault} : t.Drains .listRules rulesReplyCodec "" s calls pages (.ok ()) v →
      t.ListsCategories v calls' (.error e) u → ListsRules t s (calls ++ calls') (.error e) u
  | drained {s v u : Session τ} {calls calls' : List LoggedCall} {pages : List RulesReply}
      {known : List Category} {result : Result (List Rule)} :
      t.Drains .listRules rulesReplyCodec "" s calls pages (.ok ()) v →
      t.ListsCategories v calls' (.ok known) u →
      RuleEntry.Settles known (pages.flatMap PageReply.entries) result →
      ListsRules t s (calls ++ calls') result u

variable {t : Transport τ} {s u : Session τ} {calls : List LoggedCall}

/-- No two categories that are listed have one identifier. -/
theorem ListsCategories.nodup {known : List Category}
    (h : t.ListsCategories s calls (.ok known) u) : (known.map Category.id).Nodup := by
  cases h with
  | drained _ hsettles =>
    cases hsettles with
    | listed _ hsorted => exact hsorted.nodup

/-- Over the transport that keeps a log the same categories are listed, and the calls are logged. -/
theorem ListsCategories.logged {result : Result (List Category)}
    (h : t.ListsCategories s calls result u) (log : List LoggedCall) :
    (t.logged none).ListsCategories ⟨s.context, (s.state, log)⟩ calls result
      ⟨u.context, (u.state, log ++ calls)⟩ := by
  cases h with
  | fails hdrains => exact .fails (hdrains.logged log)
  | drained hdrains hsettles => exact .drained (hdrains.logged log) hsettles

/-- Over the transport that keeps a log the same rules are listed, and the calls are logged. -/
theorem ListsRules.logged {result : Result (List Rule)} (h : t.ListsRules s calls result u)
    (log : List LoggedCall) : (t.logged none).ListsRules ⟨s.context, (s.state, log)⟩ calls result
      ⟨u.context, (u.state, log ++ calls)⟩ := by
  cases h with
  | fails hdrains => exact .fails (hdrains.logged log)
  | categoriesFail hdrains hlists =>
    rw [← List.append_assoc]
    exact .categoriesFail (hdrains.logged log) (hlists.logged _)
  | drained hdrains hlists hsettles =>
    rw [← List.append_assoc]
    exact .drained (hdrains.logged log) (hlists.logged _) hsettles

/-- Categories are listed just when draining them ends. -/
theorem exists_listsCategories_iff :
    (∃ calls result u, t.ListsCategories s calls result u) ↔
      ∃ k, IsLast (t.answer .listCategories categoriesReplyCodec k "" s) := by
  rw [← exists_drains_iff]
  constructor
  · rintro ⟨calls, result, u, h⟩
    cases h with
    | fails hdrains => exact ⟨_, _, _, _, hdrains⟩
    | drained hdrains _ => exact ⟨_, _, _, _, hdrains⟩
  · rintro ⟨calls, pages, result, u, hdrains⟩
    cases result with
    | error e => exact ⟨_, _, _, .fails hdrains⟩
    | ok _ => exact ⟨_, _, _, .drained hdrains (Listing.categories.settles_iff.2 rfl)⟩

/-- Rules are listed just when draining them ends, and, unless it fails, draining the categories
then ends too. -/
theorem exists_listsRules_iff :
    (∃ calls result u, t.ListsRules s calls result u) ↔
      ∃ calls pages result u, t.Drains .listRules rulesReplyCodec "" s calls pages result u ∧
        (result = .ok () →
          ∃ k, IsLast (t.answer .listCategories categoriesReplyCodec k "" u)) := by
  constructor
  · rintro ⟨calls, result, u, h⟩
    cases h with
    | fails hdrains => exact ⟨_, _, _, _, hdrains, nofun⟩
    | categoriesFail hdrains hlists =>
      exact ⟨_, _, _, _, hdrains, fun _ => exists_listsCategories_iff.1 ⟨_, _, _, hlists⟩⟩
    | drained hdrains hlists _ =>
      exact ⟨_, _, _, _, hdrains, fun _ => exists_listsCategories_iff.1 ⟨_, _, _, hlists⟩⟩
  · rintro ⟨calls, pages, result, v, hdrains, hcategories⟩
    cases result with
    | error e => exact ⟨_, _, _, .fails hdrains⟩
    | ok _ =>
      obtain ⟨calls', result, u, hlists⟩ := exists_listsCategories_iff.2 (hcategories rfl)
      cases result with
      | error e => exact ⟨_, _, _, .categoriesFail hdrains hlists⟩
      | ok known =>
        exact ⟨_, _, _,
          .drained hdrains hlists ((RuleEntry.settles_iff hlists.nodup).2 rfl)⟩

end Transport

/-! ## What a client does -/

/-- What has no result stops what comes after it. -/
theorem Call.runIn_bind_of_error {σ α β : Type} {act : Call σ α} {next : α → Call σ β}
    {s : Session σ} {e : Stop} (h : (act.runIn s).1 = .error e) :
    ((act >>= next).runIn s).1 = .error e := by
  rw [runIn_bind]
  cases hrun : act.runIn s with
  | mk result t =>
    rw [hrun] at h
    obtain rfl : result = .error e := h
    rfl

/-- A session over a transport, as that of a client that remembers something. -/
def Session.over {τ : Type} (s : Session τ) (cache : ListingCache) : Session (ClientState τ) :=
  ⟨s.context, ⟨cache, s.state⟩⟩

namespace Client

open Call

variable {τ α : Type} {c : Client τ} {s u : Session τ} {calls : List LoggedCall}

/-- What comes of asking for a page is what the client reads. -/
theorem ask_pageMessage (m : Method) (reply : Codec (PageReply α)) (token : String) (s : Session τ)
    (cache : ListingCache) :
    (c.ask m PageMessage.codec reply ⟨pageSize, token⟩).runIn (s.over cache)
      = (lift (c.transport.page m reply token s).1,
        (c.transport.page m reply token s).2.over cache) := by
  unfold Transport.page
  cases hcheck : s.context.check with
  | error e => exact ask_of_not_live hcheck
  | ok _ => exact ask_runIn ((CallContext.check_eq_ok_iff _).1 hcheck)

/-- The pages of a listing from a token on, as a client fetches them. -/
def fetchPages (c : Client τ) (m : Method) (reply : Codec (PageReply α)) (n : Nat)
    (token : String) : Call (ClientState τ) (List α) :=
  drain (fun token => c.ask m PageMessage.codec reply ⟨pageSize, token⟩) n token

section

variable {m : Method} {reply : Codec (PageReply α)} {token : String} {n : Nat}

/-- A call that fails stops the fetching. -/
theorem fetchPages_of_error {e : Fault} (h : c.transport.page m reply token s = (.error e, u))
    (cache : ListingCache) : (c.fetchPages m reply (n + 1) token).runIn (s.over cache)
      = (.error (.fault e), u.over cache) := by
  rw [fetchPages, drain, runIn_bind, ask_pageMessage, h]
  rfl

/-- A page without a token is the last one that is fetched. -/
theorem fetchPages_of_last {page : PageReply α}
    (h : c.transport.page m reply token s = (.ok page, u)) (hlast : page.nextPageToken = "")
    (cache : ListingCache) : (c.fetchPages m reply (n + 1) token).runIn (s.over cache)
      = (.ok page.entries, u.over cache) := by
  have hempty : page.nextPageToken.isEmpty = true := by rw [hlast]; rfl
  rw [fetchPages, drain, runIn_bind, ask_pageMessage, h]
  simp only [lift, hempty, if_true]
  rfl

/-- After a page with a token those from this token on are fetched. -/
theorem fetchPages_of_next {page : PageReply α}
    (h : c.transport.page m reply token s = (.ok page, u)) (hmore : page.nextPageToken ≠ "")
    (cache : ListingCache) : (c.fetchPages m reply (n + 1) token).runIn (s.over cache)
      = (((c.fetchPages m reply n page.nextPageToken).runIn (u.over cache)).1.map
          (page.entries ++ ·),
        ((c.fetchPages m reply n page.nextPageToken).runIn (u.over cache)).2) := by
  have hempty : page.nextPageToken.isEmpty = false := by
    simpa [String.isEmpty_iff] using hmore
  rw [fetchPages, drain, runIn_bind, ask_pageMessage, h]
  simp only [lift, hempty, Bool.false_eq_true, if_false]
  rw [runIn_bind, fetchPages]
  cases (drain (fun token => c.ask m PageMessage.codec reply ⟨pageSize, token⟩) n
    page.nextPageToken).runIn (u.over cache) with
  | mk result v => cases result <;> rfl

variable {pages : List (PageReply α)} {result : Result Unit}

/-- A client that may read enough pages reads what is drained. -/
theorem fetchPages_of_drains (h : c.transport.Drains m reply token s calls pages result u)
    (hn : pages.length < n) (cache : ListingCache) :
    (c.fetchPages m reply n token).runIn (s.over cache)
      = (lift (result.map fun _ => pages.flatMap PageReply.entries), u.over cache) := by
  induction h generalizing n with
  | fails hpage =>
    obtain ⟨n, rfl⟩ := Nat.exists_eq_add_one_of_ne_zero (Nat.ne_zero_of_lt hn)
    rw [fetchPages_of_error hpage]
    rfl
  | @last token s u page hpage hlast =>
    obtain ⟨n, rfl⟩ := Nat.exists_eq_add_one_of_ne_zero (Nat.ne_zero_of_lt hn)
    rw [fetchPages_of_last hpage hlast, List.flatMap_singleton]
    rfl
  | @next token s v u page calls pages result hpage hmore _ ih =>
    obtain ⟨n, rfl⟩ := Nat.exists_eq_add_one_of_ne_zero (Nat.ne_zero_of_lt hn)
    rw [fetchPages_of_next hpage hmore, ih (Nat.lt_of_succ_lt_succ hn), List.flatMap_cons]
    cases result <;> rfl

/-- However many pages a client may read, it reads what is drained, or gives up. -/
theorem fetchPages_cases (n : Nat) (token : String) (s : Session τ) (cache : ListingCache) :
    ((c.fetchPages m reply n token).runIn (s.over cache)).1 = .error .unfinished ∨
      ∃ calls pages result u, c.transport.Drains m reply token s calls pages result u ∧
        (c.fetchPages m reply n token).runIn (s.over cache)
          = (lift (result.map fun _ => pages.flatMap PageReply.entries), u.over cache) := by
  induction n generalizing token s with
  | zero => exact .inl rfl
  | succ n ih =>
    cases hpage : c.transport.page m reply token s with
    | mk answer v =>
      cases answer with
      | error e => exact .inr ⟨_, _, _, _, .fails hpage, fetchPages_of_error hpage cache⟩
      | ok page =>
        by_cases hlast : page.nextPageToken = ""
        · refine .inr ⟨_, _, _, _, .last hpage hlast, ?_⟩
          rw [fetchPages_of_last hpage hlast, List.flatMap_singleton]
          rfl
        · rw [fetchPages_of_next hpage hlast]
          rcases ih page.nextPageToken v with hnone | ⟨calls, pages, result, u, hdrains, hrun⟩
          · exact .inl (by rw [hnone]; rfl)
          · refine .inr ⟨_, _, _, _, .next hpage hlast hdrains, ?_⟩
            rw [hrun, List.flatMap_cons]
            cases result <;> rfl

end

section

variable (hcache : c.options.cache = false)

include hcache

/-- To list categories without a cache is to fetch all pages, and to sort what is on them. -/
theorem listCategories_eq : c.listCategories =
    c.fetchPages .listCategories categoriesReplyCodec c.maxPages "" >>= fun entries =>
      Call.ofResult (Category.sortUnique entries) :=
  list_eq_fetch hcache .categories

/-- To list rules without a cache is to fetch all pages, to list the categories, and then to look
these up for the rules and to sort them. -/
theorem listRules_eq : c.listRules =
    c.fetchPages .listRules rulesReplyCodec c.maxPages "" >>= fun entries =>
      c.listCategories >>= fun categories =>
        Call.ofResult (Rule.ofEntries categories entries >>= Rule.sortUnique) :=
  list_eq_fetch hcache .rules

/-- A client that may read enough pages lists the categories as they are listed. -/
theorem listCategories_of_lists {result : Result (List Category)}
    (h : c.transport.ListsCategories s calls result u) (hn : calls.length < c.maxPages)
    (cache : ListingCache) :
    c.listCategories.runIn (s.over cache) = (lift result, u.over cache) := by
  rw [listCategories_eq hcache, runIn_bind]
  cases h with
  | fails hdrains =>
    rw [fetchPages_of_drains hdrains (Nat.lt_of_le_of_lt hdrains.length_pages_le hn)]
    rfl
  | drained hdrains hsettles =>
    rw [fetchPages_of_drains hdrains (Nat.lt_of_le_of_lt hdrains.length_pages_le hn),
      ← Listing.categories.settles_iff.1 hsettles]
    rfl

/-- However many pages a client may read, it lists the categories as they are listed, or gives up.
-/
theorem listCategories_cases (s : Session τ) (cache : ListingCache) :
    (c.listCategories.runIn (s.over cache)).1 = .error .unfinished ∨
      ∃ calls result u, c.transport.ListsCategories s calls result u ∧
        c.listCategories.runIn (s.over cache) = (lift result, u.over cache) := by
  rw [listCategories_eq hcache]
  rcases fetchPages_cases c.maxPages "" s cache with
    hnone | ⟨calls, pages, result, u, hdrains, hrun⟩
  · exact .inl (runIn_bind_of_error hnone)
  · rw [runIn_bind, hrun]
    cases result with
    | error e => exact .inr ⟨_, _, _, .fails hdrains, rfl⟩
    | ok _ => exact .inr ⟨_, _, _, .drained hdrains (Listing.categories.settles_iff.2 rfl), rfl⟩

/-- A client that may read enough pages lists the rules as they are listed. -/
theorem listRules_of_lists {result : Result (List Rule)}
    (h : c.transport.ListsRules s calls result u) (hn : calls.length < c.maxPages)
    (cache : ListingCache) :
    c.listRules.runIn (s.over cache) = (lift result, u.over cache) := by
  rw [listRules_eq hcache, runIn_bind]
  cases h with
  | fails hdrains =>
    rw [fetchPages_of_drains hdrains (Nat.lt_of_le_of_lt hdrains.length_pages_le hn)]
    rfl
  | categoriesFail hdrains hlists =>
    rw [List.length_append] at hn
    have hpages := hdrains.length_pages_le
    rw [fetchPages_of_drains hdrains (by omega)]
    simp only [Except.map, lift]
    rw [runIn_bind, listCategories_of_lists hcache hlists (by omega)]
    rfl
  | drained hdrains hlists hsettles =>
    rw [List.length_append] at hn
    have hpages := hdrains.length_pages_le
    rw [fetchPages_of_drains hdrains (by omega)]
    simp only [Except.map, lift]
    rw [runIn_bind, listCategories_of_lists hcache hlists (by omega),
      ← (RuleEntry.settles_iff hlists.nodup).1 hsettles]
    rfl

/-- However many pages a client may read, it lists the rules as they are listed, or gives up. -/
theorem listRules_cases (s : Session τ) (cache : ListingCache) :
    (c.listRules.runIn (s.over cache)).1 = .error .unfinished ∨
      ∃ calls result u, c.transport.ListsRules s calls result u ∧
        c.listRules.runIn (s.over cache) = (lift result, u.over cache) := by
  rw [listRules_eq hcache]
  rcases fetchPages_cases c.maxPages "" s cache with
    hnone | ⟨calls, pages, result, v, hdrains, hrun⟩
  · exact .inl (runIn_bind_of_error hnone)
  · rw [runIn_bind, hrun]
    cases result with
    | error e => exact .inr ⟨_, _, _, .fails hdrains, rfl⟩
    | ok _ =>
      simp only [Except.map, lift]
      rcases listCategories_cases hcache v cache with hnone | ⟨calls', result, u, hlists, hrun⟩
      · exact .inl (runIn_bind_of_error hnone)
      · rw [runIn_bind, hrun]
        cases result with
        | error e => exact .inr ⟨_, _, _, .categoriesFail hdrains hlists, rfl⟩
        | ok known =>
          exact .inr
            ⟨_, _, _, .drained hdrains hlists ((RuleEntry.settles_iff hlists.nodup).2 rfl), rfl⟩

end

/-- What a client that remembers nothing lists, over whatever transport and in whatever session. The
rules are drained, then the categories, and the rules are settled among these
(`Transport.ListsRules`); this is what the client does, call by call, as soon as it may read enough
pages, and with fewer it gives up at most. Draining stops at the first answer without a token and at
the first call that fails, and only there. -/
theorem listRules_drains (c : Client τ) (hcache : c.options.cache = false)
    (s : Session (ClientState τ)) :
    let start : Session τ := ⟨s.context, s.state.link⟩
    let reading (n : Nat) : Client τ := { c with maxPages := n }
    (∀ calls result u, c.transport.ListsRules start calls result u → ∀ n, calls.length < n →
      (reading n).listRules.runIn s = (lift result, u.over s.state.cache) ∧
      ∀ log, ((reading n).logged none).listRules.runIn ⟨s.context, s.state.withLog log⟩
        = (lift result, ⟨u.context, ⟨s.state.cache, (u.state, log ++ calls)⟩⟩)) ∧
    (∀ n, ((reading n).listRules.runIn s).1 = .error .unfinished ∨
      ∃ calls result u, c.transport.ListsRules start calls result u ∧
        (reading n).listRules.runIn s = (lift result, u.over s.state.cache)) ∧
    ((∃ calls result u, c.transport.ListsRules start calls result u) ↔
      ∃ calls pages result u,
        c.transport.Drains .listRules rulesReplyCodec "" start calls pages result u ∧
        (result = .ok () →
          ∃ k, IsLast (c.transport.answer .listCategories categoriesReplyCodec k "" u))) ∧
    ((∃ calls pages result u,
        c.transport.Drains .listRules rulesReplyCodec "" start calls pages result u) ↔
      ∃ k, IsLast (c.transport.answer .listRules rulesReplyCodec k "" start)) ∧
    ∀ calls pages result u,
      c.transport.Drains .listRules rulesReplyCodec "" start calls pages result u →
      ∃ k, IsLast (c.transport.answer .listRules rulesReplyCodec k "" start) ∧
        (∀ j < k, ¬ IsLast (c.transport.answer .listRules rulesReplyCodec j "" start)) ∧
        k ≤ calls.length ∧ calls.length ≤ k + 1 := by
  intro start reading
  refine ⟨fun calls result u h n hn => ⟨?_, fun log => ?_⟩, fun n => ?_,
    Transport.exists_listsRules_iff, Transport.exists_drains_iff,
    fun calls pages result u h => h.stops⟩
  · exact listRules_of_lists (c := reading n) hcache h hn s.state.cache
  · exact listRules_of_lists (c := (reading n).logged none) hcache (h.logged log) hn s.state.cache
  · exact listRules_cases (c := reading n) hcache start s.state.cache

end Client

/-! ## Two pages -/

namespace TwoPages

/-- A rule in no category. -/
def entry (id : String) : RuleEntry := { id := id, purpose := "Finds nothing.", type := .lint }

/-- The rule of an entry without categories. -/
def rule (id : String) : Rule := ⟨id, [], false, "Finds nothing.", .lint, false, []⟩

/-- The page of rules that is the answer with a number. -/
def pageOf (n : Nat) : RulesReply :=
  if n = 0 then ⟨"MORE", [entry "SECOND_RULE"]⟩ else ⟨"", [entry "FIRST_RULE"]⟩

/-- A transport that counts its calls, and answers with two pages of rules and no categories. -/
def transport : Transport Nat := fun m _ _ n =>
  { result := .ok (match m with
      | .listRules => rulesReplyCodec.toBytes (pageOf n)
      | _ => categoriesReplyCodec.toBytes {})
    state := n + 1 }

/-- The answers of the transport are read as its pages of rules, by their numbers. -/
theorem page_rules (token : String) (n : Nat) :
    transport.page .listRules rulesReplyCodec token ⟨{}, n⟩ = (.ok (pageOf n), ⟨{}, n + 1⟩) :=
  congrArg (fun answer => (answer, (⟨{}, n + 1⟩ : Session Nat)))
    (RulesReply.ofBytes_toBytes (pageOf n))

/-- The transport answers a question about categories with an empty page, which is the last. -/
theorem page_categories (token : String) (n : Nat) :
    transport.page .listCategories categoriesReplyCodec token ⟨{}, n⟩ = (.ok {}, ⟨{}, n + 1⟩) :=
  congrArg (fun answer => (answer, (⟨{}, n + 1⟩ : Session Nat)))
    (CategoriesReply.ofBytes_toBytes {})

/-- `listRules_drains` for two pages: both rules are listed, in order. -/
theorem listRules_drains_twoPages :
    let c : Client Nat := { transport := transport }
    c.options.cache = false ∧
    c.listRules.runIn ⟨{}, { link := 0 }⟩
      = (.ok [rule "FIRST_RULE", rule "SECOND_RULE"], ⟨{}, { link := 3 }⟩) := by
  intro c
  have hrules : transport.Drains .listRules rulesReplyCodec "" ⟨{}, 0⟩ _ [pageOf 0, pageOf 1]
      (.ok ()) ⟨{}, 2⟩ :=
    .next (page_rules "" 0) (by decide) (.last (page_rules "MORE" 1) rfl)
  have hcategories : transport.ListsCategories ⟨{}, 2⟩ _ (.ok []) ⟨{}, 3⟩ :=
    .drained (.last (page_categories "" 2) rfl) (.listed (.refl _) .nil)
  have hsettles : RuleEntry.Settles [] [entry "SECOND_RULE", entry "FIRST_RULE"]
      (.ok [rule "FIRST_RULE", rule "SECOND_RULE"]) := by
    have hmirrored : ∀ id, (entry id).MirroredBy [] (rule id) :=
      fun id => ⟨rfl, rfl, rfl, rfl, rfl, rfl, .nil⟩
    exact .described (.cons (hmirrored _) (.cons (hmirrored _) .nil))
      (.listed (.swap _ _ _) (by decide))
  obtain ⟨hlists, -⟩ := Client.listRules_drains c rfl ⟨{}, { link := 0 }⟩
  exact ⟨rfl, (hlists _ _ _ (.drained hrules hcategories hsettles) 1000000 (by decide)).1⟩

end TwoPages

end SchemaCheck
