import Mathlib.Data.List.TakeWhile
import SchemaCheck.Proofs.Call.Context
import SchemaCheck.Proofs.Provider.Paging

/-!
# Going through a listing

A caller follows the tokens of pages from the empty one until it is given the empty one again
(`Traversal`). Whatever sizes it asks for, it comes to an end, and has been given every entry once,
in the order of identifiers; with pages of one size it takes no more calls than there must be. All
this is `ServedInPages`, and holds of the listings of a provider (`Provider.listings_in_pages`).

A page may also be found by counting positions in words, which cannot count further than the
greatest word (`Provider.pageByPosition?`). As long as words can count the entries, no step of that
fails, and it finds the same page (`Provider.pageByPosition?_eq`).
-/

namespace SchemaCheck

variable {α : Type} {key : α → String} {listing rest : List α} {token : String}

/-! ## Pages by position -/

namespace Provider

/-- The page of a request from a position on, up to the one after its last: a size or a sum beyond
the greatest word is the greatest word. Without a result when the page would end before it starts.
-/
def slice? (greatest : Nat) (key : α → String) (listing : List α) (m : PageMessage) (start : Nat) :
    Option (Result (PageReply α)) :=
  let size := if m.pageSize = 0 then defaultPageSize else min m.pageSize.toNat greatest
  let stop := min (min (start + size) greatest) listing.length
  if start ≤ stop then
    some (.ok {
      nextPageToken := (listing[stop]?.map key).getD ""
      entries := (listing.drop start).take (stop - start) })
  else none

/-- The page that a request asks for, from the position of its token on. -/
def pageByPosition? (greatest : Nat) (key : α → String) (listing : List α) (m : PageMessage) :
    Option (Result (PageReply α)) :=
  match if m.pageToken.isEmpty then some 0 else listing.findIdx? fun a => key a == m.pageToken with
  | none => some (.error (.invalidArgument ("unknown page token: " ++ Text.quoted m.pageToken)))
  | some start => slice? greatest key listing m start

/-- A page has room for one entry at least. -/
theorem sizeOf_pos (m : PageMessage) : 0 < sizeOf m := by
  unfold sizeOf
  split
  · decide
  · next h => exact Nat.pos_of_ne_zero fun hzero => h (UInt32.toNat_inj.1 hzero)

/-- The end of a page is where its size ends or the listing does, whichever comes first. -/
theorem stop_eq {greatest start n : Nat} {m : PageMessage} (hn : n ≤ greatest) :
    min (min (start + if m.pageSize = 0 then defaultPageSize
      else min m.pageSize.toNat greatest) greatest) n = min (start + sizeOf m) n := by
  unfold sizeOf
  split <;> omega

/-- The page between two positions has the first entries after the one, and the token of what comes
after the other. -/
theorem slice_eq (key : α → String) (listing : List α) (start size : Nat) :
    (listing[min (start + size) listing.length]?.map key).getD ""
        = nextToken key (listing.drop start) size ∧
      (listing.drop start).take (min (start + size) listing.length - start)
        = (listing.drop start).take size := by
  rcases Nat.le_total (start + size) listing.length with hle | hle
  · rw [Nat.min_eq_left hle, nextToken, List.drop_drop, List.head?_drop, Nat.add_sub_cancel_left]
    exact ⟨rfl, rfl⟩
  · have hdrop : (listing.drop start).drop size = [] := by
      rw [List.drop_drop]
      exact List.drop_of_length_le hle
    have hlength : (listing.drop start).length ≤ size := by
      rw [List.length_drop]
      omega
    rw [Nat.min_eq_right hle, nextToken, hdrop, List.getElem?_eq_none (Nat.le_refl _),
      List.take_of_length_le hlength, List.take_of_length_le (Nat.le_of_eq List.length_drop)]
    exact ⟨rfl, rfl⟩

/-- From a position in the listing, or from its end, there is a page, as long as words can count the
entries. -/
theorem slice?_eq {greatest start : Nat} (hlength : listing.length ≤ greatest)
    (hstart : start ≤ listing.length) (m : PageMessage) : slice? greatest key listing m start
      = some (.ok ⟨nextToken key (listing.drop start) (sizeOf m),
          (listing.drop start).take (sizeOf m)⟩) := by
  obtain ⟨htoken, hentries⟩ := slice_eq key listing start (sizeOf m)
  simp only [slice?, stop_eq hlength, htoken, hentries]
  rw [if_pos (Nat.le_min.2 ⟨Nat.le_add_right _ _, hstart⟩)]

/-- Looking for a position and going past what does not match find the same. -/
theorem findIdx?_eq {p : α → Bool} (listing : List α) :
    match listing.findIdx? p with
    | none => (listing.dropWhile fun a => !p a) = []
    | some start => start < listing.length ∧
      (listing.dropWhile fun a => !p a) = listing.drop start := by
  induction listing with
  | nil => rfl
  | cons a listing ih =>
    cases hp : p a with
    | true =>
      rw [List.findIdx?_cons, hp, List.dropWhile_cons_of_neg (by simp [hp])]
      exact ⟨by simp, rfl⟩
    | false =>
      rw [List.findIdx?_cons, hp, List.dropWhile_cons_of_pos (by simp [hp])]
      cases hfind : listing.findIdx? p with
      | none =>
        rw [hfind] at ih
        exact ih
      | some start =>
        rw [hfind] at ih
        exact ⟨Nat.succ_lt_succ ih.1, ih.2⟩

/-- Counting positions finds the page, as long as words can count the entries. -/
theorem pageByPosition?_eq {greatest : Nat} (hlength : listing.length ≤ greatest)
    (m : PageMessage) : pageByPosition? greatest key listing m = some (page key listing m) := by
  unfold pageByPosition? page
  cases hempty : m.pageToken.isEmpty with
  | true => exact slice?_eq hlength (Nat.zero_le _) m
  | false =>
    have hfind := findIdx?_eq (p := fun a => key a == m.pageToken) listing
    simp only [Bool.false_eq_true, if_false]
    cases hidx : listing.findIdx? fun a => key a == m.pageToken with
    | none =>
      rw [hidx] at hfind
      have hdrop : (listing.dropWhile fun a => key a != m.pageToken) = [] := hfind
      rw [hdrop]
      rfl
    | some start =>
      rw [hidx] at hfind
      obtain ⟨hlt, hdrop⟩ := hfind
      have hdrop : (listing.dropWhile fun a => key a != m.pageToken) = listing.drop start := hdrop
      rw [hdrop]
      refine (slice?_eq hlength (Nat.le_of_lt hlt) m).trans ?_
      cases hrest : listing.drop start with
      | nil => exact absurd (List.drop_eq_nil_iff.1 hrest) (Nat.not_le.2 hlt)
      | cons a rest => rfl

end Provider

/-! ## Numbers of pages -/

section

variable {n size : Nat}

/-- Entries that fit on one page take one. -/
theorem pageCount_of_le (hpos : 0 < size) (h : n ≤ size) : max 1 ((n + size - 1) / size) = 1 :=
  Nat.max_eq_left (Nat.le_of_lt_succ (Nat.div_lt_of_lt_mul (by omega)))

/-- Entries that do not fit on one page take one more than what is left after it. -/
theorem pageCount_of_lt (hpos : 0 < size) (h : size < n) :
    max 1 ((n + size - 1) / size) = max 1 ((n - size + size - 1) / size) + 1 := by
  have hleft : 1 ≤ (n - size + size - 1) / size := (Nat.one_le_div_iff hpos).2 (by omega)
  have hsucc : (n + size - 1) / size = (n - size + size - 1) / size + 1 := by
    rw [← Nat.add_div_right _ hpos]
    congr 1
    omega
  rw [Nat.max_eq_right hleft, hsucc, Nat.max_eq_right (Nat.le_add_left _ _)]

end

/-! ## Following tokens -/

/-- Following tokens: each page is asked for by the token of the one before it, up to a page whose
token is empty. `serve i token` is the answer when call `i` asks for the page at a token. -/
inductive Traversal (serve : Nat → String → Result (PageReply α)) :
    Nat → String → List (List α) → Prop where
  | last {i : Nat} {token : String} {entries : List α} :
      serve i token = .ok ⟨"", entries⟩ → Traversal serve i token [entries]
  | next {i : Nat} {token token' : String} {entries : List α} {pages : List (List α)} :
      serve i token = .ok ⟨token', entries⟩ → token' ≠ "" →
        Traversal serve (i + 1) token' pages → Traversal serve i token (entries :: pages)

section

variable {serve : Nat → String → Result (PageReply α)} {sizes : Nat → Nat}

/-- Each call is answered the page at its token, of the size that belongs to the call. -/
def ServesSizes (key : α → String) (listing : List α) (serve : Nat → String → Result (PageReply α))
    (sizes : Nat → Nat) : Prop :=
  ∀ i token rest, TokenAt key listing rest token →
    serve i token = .ok ⟨nextToken key rest (sizes i), rest.take (sizes i)⟩

variable (hserve : ServesSizes key listing serve sizes) (hkeys : KeysNonempty key listing)

include hserve hkeys

/-- Whatever a token stands for is given in the end. The induction is on what is left, which each
call makes shorter. -/
theorem TokenAt.exists_traversal (hsizes : ∀ i, 0 < sizes i) (i : Nat)
    (h : TokenAt key listing rest token) :
    ∃ pages, Traversal serve i token pages ∧ pages.flatten = rest := by
  induction hn : rest.length using Nat.strongRecOn generalizing i rest token with
  | ind n ih =>
    have hanswer := hserve i token rest h
    rcases h.next hkeys (sizes i) with ⟨hempty, hdrop⟩ | ⟨hne, hnext⟩
    · rw [hempty] at hanswer
      refine ⟨[rest.take (sizes i)], .last hanswer, ?_⟩
      rw [List.flatten_singleton, ← List.append_nil (rest.take (sizes i)), ← hdrop,
        List.take_append_drop]
    · have hshorter : (rest.drop (sizes i)).length < n := by
        have hmore : (rest.drop (sizes i)).length ≠ 0 := fun hzero => hne <| by
          rw [nextToken, List.length_eq_zero_iff.1 hzero]
          rfl
        rw [List.length_drop] at hmore ⊢
        have := hsizes i
        omega
      obtain ⟨pages, hpages, hflatten⟩ := ih _ hshorter (i + 1) hnext rfl
      refine ⟨rest.take (sizes i) :: pages, .next hanswer hne hpages, ?_⟩
      rw [List.flatten_cons, hflatten, List.take_append_drop]

/-- With pages of one size there are no more pages than there must be, and all but the last are
full. The induction is on the pages. -/
theorem Traversal.length_eq {i size : Nat} {pages : List (List α)}
    (h : Traversal serve i token pages) (hrest : TokenAt key listing rest token)
    (hpos : 0 < size) (hsize : ∀ i, sizes i = size) :
    pages.length = max 1 ((rest.length + size - 1) / size) ∧
      ∀ page ∈ pages.dropLast, page.length = size := by
  induction h generalizing rest with
  | @last i token entries h =>
    have hanswer := hserve i token rest hrest
    rw [h, hsize i] at hanswer
    have htoken : nextToken key rest size = "" := by
      simpa using (congrArg PageReply.nextPageToken (Except.ok.inj hanswer)).symm
    have hshort : rest.length ≤ size := by
      rcases hrest.next hkeys size with ⟨-, hdrop⟩ | ⟨hne, -⟩
      · exact List.drop_eq_nil_iff.1 hdrop
      · exact absurd htoken hne
    exact ⟨(pageCount_of_le hpos hshort).symm, by simp⟩
  | @next i token token' entries pages h hne hpages ih =>
    have hanswer := hserve i token rest hrest
    rw [h, hsize i] at hanswer
    obtain ⟨htoken, hentries⟩ : token' = nextToken key rest size ∧ entries = rest.take size := by
      simpa using Except.ok.inj hanswer
    rw [htoken] at hne
    rcases hrest.next hkeys size with ⟨hempty, -⟩ | ⟨-, hnext⟩
    · exact absurd hempty hne
    rw [← htoken] at hnext
    obtain ⟨hlength, hfull⟩ := ih hnext
    -- there is a page after this one, so this one is full
    have hlong : size < rest.length := by
      refine Nat.lt_of_not_le fun hle => hne ?_
      rw [nextToken, List.drop_of_length_le hle]
      rfl
    rw [List.length_drop] at hlength
    refine ⟨by rw [List.length_cons, hlength, pageCount_of_lt hpos hlong], ?_⟩
    have hpagesne : pages ≠ [] := by
      rintro rfl
      exact absurd hlength.symm (by simp)
    rw [List.dropLast_cons_of_ne_nil hpagesne]
    intro page hpage
    rcases List.mem_cons.1 hpage with rfl | hpage
    · rw [hentries, List.length_take, Nat.min_eq_left (Nat.le_of_lt hlong)]
    · exact hfull page hpage

end

/-! ## Served in pages -/

/-- Entries are served page by page. Each call has a size and a context of its own; the contexts are
live. -/
structure ServedInPages (key : α → String) (entries : List α)
    (serve : PageMessage → CallContext → Result (PageReply α)) : Prop where
  /-- From the empty token on, all entries are given, each once and in ascending order, in as many
  calls as it takes: with pages of one size, the number of entries divided by the size and rounded
  up, but one at least; then all pages but the last are full. -/
  complete : ∀ (sizes : Nat → UInt32) (contexts : Nat → CallContext), (∀ i, (contexts i).isLive) →
    ∃ pages, Traversal (fun i token => serve ⟨sizes i, token⟩ (contexts i)) 0 "" pages ∧
      pages.flatten.Perm entries ∧ (pages.flatten.map key).Pairwise (· < ·) ∧
      ∀ size, (∀ i, Provider.sizeOf ⟨sizes i, ""⟩ = size) →
        pages.length = max 1 ((entries.length + size - 1) / size) ∧
          ∀ page ∈ pages.dropLast, page.length = size
  /-- From the key of an entry on, the entries with that key or a greater one are given. -/
  fromKey : ∀ (sizes : Nat → UInt32) (contexts : Nat → CallContext), (∀ i, (contexts i).isLive) →
    ∀ token ∈ entries.map key,
      ∃ pages, Traversal (fun i token => serve ⟨sizes i, token⟩ (contexts i)) 0 token pages ∧
        pages.flatten.Perm (entries.filter fun a => token ≤ key a) ∧
        (pages.flatten.map key).Pairwise (· < ·)
  /-- No other token is known. -/
  unknown : ∀ (m : PageMessage) (c : CallContext), c.isLive → m.pageToken ≠ "" →
    m.pageToken ∉ entries.map key →
      serve m c = .error (.invalidArgument ("unknown page token: " ++ Text.quoted m.pageToken))
  /-- Each page is found by counting positions in words, as long as these can count the entries. -/
  inBounds : ∀ greatest, entries.length ≤ greatest → ∀ (m : PageMessage) (c : CallContext),
    c.isLive → Provider.pageByPosition? greatest key (sortByKey key entries) m = some (serve m c)

section

variable {entries : List α} (hkeys : KeysNonempty key (sortByKey key entries))
  (hnodup : ((sortByKey key entries).map key).Nodup)

include hnodup

/-- Sorted entries with different keys are in strictly ascending order. -/
theorem pairwise_lt_sortByKey : ((sortByKey key entries).map key).Pairwise (· < ·) := by
  have hle : ((sortByKey key entries).map key).Pairwise (· ≤ ·) :=
    List.pairwise_map.2 (pairwise_sortByKey key entries)
  exact (hle.and hnodup).imp fun h => Std.lt_of_le_of_ne h.1 h.2

/-- What starts at the entry with a key are the entries with that key or a greater one. -/
theorem TokenAt.eq_filter (h : TokenAt key (sortByKey key entries) rest token) (hne : token ≠ "") :
    rest = (sortByKey key entries).filter fun a => token ≤ key a := by
  have hlt := pairwise_lt_sortByKey hnodup
  rcases h with ⟨hempty, -⟩ | ⟨before, a, after, hlisting, rfl, rfl⟩
  · exact absurd hempty hne
  · rw [hlisting] at hlt ⊢
    obtain ⟨-, hrest, hbefore⟩ := List.pairwise_append.1 (List.pairwise_map.1 hlt)
    have hnone : before.filter (fun b => decide (key a ≤ key b)) = [] :=
      List.filter_eq_nil_iff.2 fun b hb => by
        simpa using hbefore b hb a List.mem_cons_self
    have hall : (a :: after).filter (fun b => decide (key a ≤ key b)) = a :: after := by
      refine List.filter_eq_self.2 fun b hb => decide_eq_true ?_
      rcases List.mem_cons.1 hb with rfl | hb
      · exact String.le_refl _
      · exact Std.le_of_lt ((List.pairwise_cons.1 hrest).1 b hb)
    rw [List.filter_append, hnone, hall, List.nil_append]

include hkeys

/-- Pages of entries in the order of their keys serve the entries. -/
theorem servedInPages {serve : PageMessage → CallContext → Result (PageReply α)}
    (hserve : ∀ m c, c.isLive → serve m c = Provider.page key (sortByKey key entries) m) :
    ServedInPages key entries serve := by
  have hperm := sortByKey_perm key entries
  have hlt := pairwise_lt_sortByKey hnodup
  have hsizes : ∀ (sizes : Nat → UInt32) (contexts : Nat → CallContext),
      (∀ i, (contexts i).isLive) → ServesSizes key (sortByKey key entries)
        (fun i token => serve ⟨sizes i, token⟩ (contexts i))
        fun i => Provider.sizeOf ⟨sizes i, ""⟩ := by
    intro sizes contexts hlive i token rest htoken
    exact (hserve _ _ (hlive i)).trans
      (Provider.page_of_tokenAt (m := ⟨sizes i, token⟩) htoken hkeys hnodup)
  refine ⟨fun sizes contexts hlive => ?_, fun sizes contexts hlive token htoken => ?_,
    fun m c hlive hne hunknown => ?_, fun greatest hlength m c hlive => ?_⟩
  · have hserves := hsizes sizes contexts hlive
    have hstart := tokenAt_empty key (sortByKey key entries)
    obtain ⟨pages, hpages, hflatten⟩ :=
      hstart.exists_traversal hserves hkeys (fun i => Provider.sizeOf_pos _) 0
    refine ⟨pages, hpages, ?_, ?_, fun size hsize => ?_⟩
    · rw [hflatten]
      exact hperm
    · rw [hflatten]
      exact hlt
    · rw [← hperm.length_eq]
      exact hpages.length_eq hserves hkeys hstart (hsize 0 ▸ Provider.sizeOf_pos _) hsize
  · obtain ⟨a, ha, rfl⟩ := List.mem_map.1 htoken
    have ha' := hperm.mem_iff.2 ha
    obtain ⟨before, after, hlisting⟩ := List.append_of_mem ha'
    have hstart : TokenAt key (sortByKey key entries) (a :: after) (key a) :=
      .inr ⟨before, a, after, hlisting, rfl, rfl⟩
    obtain ⟨pages, hpages, hflatten⟩ := hstart.exists_traversal (hsizes sizes contexts hlive) hkeys
      (fun i => Provider.sizeOf_pos _) 0
    rw [hstart.eq_filter hnodup (hkeys a ha')] at hflatten
    refine ⟨pages, hpages, ?_, ?_⟩
    · rw [hflatten]
      exact hperm.filter _
    · rw [hflatten]
      exact hlt.sublist (List.filter_sublist.map key)
  -- to look for an unknown token leaves nothing of the listing
  · have hdrop : ((sortByKey key entries).dropWhile fun a => key a != m.pageToken) = [] := by
      refine List.dropWhile_eq_nil_iff.2 fun a ha => bne_iff_ne.2 fun heq => hunknown ?_
      exact List.mem_map.2 ⟨a, hperm.mem_iff.1 ha, heq⟩
    have hempty : m.pageToken.isEmpty = false := by simpa using hne
    rw [hserve m c hlive, Provider.page, hempty, hdrop]
    rfl
  · rw [hserve m c hlive]
    exact Provider.pageByPosition?_eq (hperm.length_eq ▸ hlength) m

end

namespace Provider

variable (p : Provider)

/-- In a live call rules are listed by the page of the listing. -/
theorem run_listRules (m : PageMessage) {c : CallContext} (hc : c.isLive) :
    ((p.listRules m).run c).1 = page RuleEntry.id p.ruleListing m := by
  rw [listRules, Served.run_bind, Served.run_check, (CallContext.check_eq_ok_iff c).2 hc]
  rfl

/-- In a live call categories are listed by the page of the listing. -/
theorem run_listCategories (m : PageMessage) {c : CallContext} (hc : c.isLive) :
    ((p.listCategories m).run c).1 = page Category.id p.categoryListing m := by
  rw [listCategories, Served.run_bind, Served.run_check, (CallContext.check_eq_ok_iff c).2 hc]
  rfl

/-- A provider serves its rules and its categories in pages. -/
theorem listings_in_pages :
    ServedInPages RuleEntry.id p.spec.ruleEntries (fun m c => ((p.listRules m).run c).1) ∧
      ServedInPages Category.id p.spec.categories (fun m c => ((p.listCategories m).run c).1) :=
  ⟨servedInPages p.keysNonempty_ruleListing p.nodup_ruleListing fun m _ hc => p.run_listRules m hc,
    servedInPages p.keysNonempty_categoryListing p.nodup_categoryListing fun m _ hc =>
      p.run_listCategories m hc⟩

end Provider

end SchemaCheck
