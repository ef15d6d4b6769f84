import SchemaCheck.Proofs.Client.Settling

/-!
# Merged listings

Several clients list as one. They are asked in turn, and the first that fails stops the listing.
Otherwise what they list is merged: all of it, in the order of identifiers, unless two of them list
one identifier (`Listing.Merges`). Nothing is assumed of the clients but that each lists in order
and without repetitions. What comes of it does not hang on the order of the clients, nor on whether
some of them are one client already: `CheckClient.multi_merges`.
-/

namespace SchemaCheck

/-! ## Merging -/

namespace Listing

variable {α : Type} (ℓ : Listing α)

/-- Two of several listings have an entry with the identifier. -/
def Shared (listings : List (List α)) (id : String) : Prop :=
  ∃ as bs, [as, bs].Sublist listings ∧ id ∈ as.map ℓ.key ∧ id ∈ bs.map ℓ.key

/-- What comes of several listings: a fault that names the identifiers that two of them share, in
order and each once; or, when there are none, the entries of all, in order. -/
inductive Merges (listings : List (List α)) : Result (List α) → Prop where
  | shared {ids : List String} : ids ≠ [] → ids.Pairwise (· < ·) →
      (∀ id, id ∈ ids ↔ ℓ.Shared listings id) →
      Merges listings (.error (.duplicateId ℓ.kind ids))
  | union {as : List α} : (∀ id, ¬ ℓ.Shared listings id) → as.Perm listings.flatten →
      ℓ.Ascending as → Merges listings (.ok as)

variable {ℓ} {listings : List (List α)}

/-- What one more listing adds to what is shared. -/
theorem shared_cons_iff {as : List α} {id : String} : ℓ.Shared (as :: listings) id ↔
    (id ∈ as.map ℓ.key ∧ id ∈ listings.flatten.map ℓ.key) ∨ ℓ.Shared listings id := by
  have hmem : id ∈ listings.flatten.map ℓ.key ↔ ∃ bs ∈ listings, id ∈ bs.map ℓ.key := by
    rw [List.map_flatten, List.mem_flatten]
    simp
  rw [hmem]
  constructor
  · rintro ⟨bs, cs, hsub, hbs, hcs⟩
    cases hsub with
    | cons _ hsub => exact .inr ⟨bs, cs, hsub, hbs, hcs⟩
    | cons_cons _ hsub => exact .inl ⟨hbs, cs, List.singleton_sublist.1 hsub, hcs⟩
  · rintro (⟨has, bs, hin, hbs⟩ | ⟨bs, cs, hsub, hbs, hcs⟩)
    · exact ⟨as, bs, (List.singleton_sublist.2 hin).cons_cons as, has, hbs⟩
    · exact ⟨bs, cs, hsub.cons as, hbs, hcs⟩

/-- Among listings without repetitions, what is shared is what occurs twice in all of them. -/
theorem shared_iff_two_le_count (h : ∀ as ∈ listings, (as.map ℓ.key).Nodup) {id : String} :
    ℓ.Shared listings id ↔ 2 ≤ (listings.flatten.map ℓ.key).count id := by
  induction listings with
  | nil =>
    constructor
    · rintro ⟨as, bs, hsub, -⟩
      cases hsub
    · intro hcount
      cases hcount
  | cons as listings ih =>
    obtain ⟨has, hrest⟩ := List.forall_mem_cons.1 h
    rw [shared_cons_iff, ih hrest, List.flatten_cons, List.map_append, List.count_append]
    by_cases hmem : id ∈ as.map ℓ.key
    · have hone : (as.map ℓ.key).count id = 1 := List.count_eq_one_of_mem has hmem
      have hother : id ∈ listings.flatten.map ℓ.key ↔
          1 ≤ (listings.flatten.map ℓ.key).count id := List.one_le_count_iff.symm
      rw [hone, hother]
      constructor
      · rintro (⟨-, hcount⟩ | hcount) <;> omega
      · exact fun hcount => .inl ⟨hmem, by omega⟩
    · rw [List.count_eq_zero_of_not_mem hmem, Nat.zero_add]
      exact or_iff_right fun h => hmem h.1

/-- What comes of all entries together comes of the listings. -/
theorem Settles.merges (hlistings : ∀ as ∈ listings, ℓ.Ascending as) {result : Result (List α)}
    (h : ℓ.Settles listings.flatten result) : ℓ.Merges listings result := by
  have hnodup : ∀ as ∈ listings, (as.map ℓ.key).Nodup := fun as has => (hlistings as has).nodup
  cases h with
  | repeated hrepeated =>
    refine .shared hrepeated.ne_nil hrepeated.sorted fun id => ?_
    rw [hrepeated.mem_iff, shared_iff_two_le_count hnodup]
  | listed hperm hsorted =>
    refine .union (fun id hshared => ?_) hperm hsorted
    have hcount := (shared_iff_two_le_count hnodup).1 hshared
    have hone := List.nodup_iff_count_le_one.1
      ((hperm.map ℓ.key).nodup_iff.1 hsorted.nodup) id
    omega

end Listing

namespace CheckClient

variable {σ α : Type}

/-! ## Clients in turn -/

/-- Lists the rules, or the categories. -/
def list (d : CheckClient σ) : Listing α → Call σ (List α)
  | .rules => d.listRules
  | .categories => d.listCategories

variable {ℓ : Listing α}

/-- Clients are asked in turn and list, each in the session that the one before leaves, and in which
the call goes on. -/
inductive ListsLive (ℓ : Listing α) :
    List (CheckClient σ × List α) → Session σ → Session σ → Prop where
  | nil {s : Session σ} : ListsLive ℓ [] s s
  | cons {d : CheckClient σ} {as : List α} {members : List (CheckClient σ × List α)}
      {s t u : Session σ} : s.context.isLive → (d.list ℓ).runIn s = (.ok as, t) →
      ListsLive ℓ members t u → ListsLive ℓ ((d, as) :: members) s u

variable {members before group post : List (CheckClient σ × List α)} {s t u : Session σ}

/-- Clients that list one after another do so up to any of them, and from there on. -/
theorem listsLive_append :
    ListsLive ℓ (before ++ members) s u ↔
      ∃ t, ListsLive ℓ before s t ∧ ListsLive ℓ members t u := by
  induction before generalizing s with
  | nil =>
    constructor
    · exact fun h => ⟨s, .nil, h⟩
    · rintro ⟨t, hnil, h⟩
      cases hnil
      exact h
  | cons m before ih =>
    constructor
    · intro h
      cases h with
      | cons hlive hrun hrest =>
        obtain ⟨t, hbefore, hmembers⟩ := ih.1 hrest
        exact ⟨t, .cons hlive hrun hbefore, hmembers⟩
    · rintro ⟨t, hbefore, hmembers⟩
      cases hbefore with
      | cons hlive hrun hrest => exact .cons hlive hrun (ih.2 ⟨t, hrest, hmembers⟩)

/-- Where the call goes on in the end it went on at the start. -/
theorem ListsLive.isLive (h : ListsLive ℓ members s t) (ht : t.context.isLive) :
    s.context.isLive := by
  cases h with
  | nil => exact ht
  | cons hlive => exact hlive

/-- Clients list in turn, up to the last, or to the first that is not asked, as the call is over, or
that fails. -/
theorem listsLive_cases (ℓ : Listing α) (ds : List (CheckClient σ)) (s : Session σ) :
    (∃ members t, members.map Prod.fst = ds ∧ ListsLive ℓ members s t) ∨
      ∃ before d after t, ds = before.map Prod.fst ++ d :: after ∧ ListsLive ℓ before s t ∧
        (t.context.isLive → ∃ e u, (d.list ℓ).runIn t = (.error e, u)) := by
  induction ds generalizing s with
  | nil => exact .inl ⟨[], s, rfl, .nil⟩
  | cons d ds ih =>
    by_cases hlive : s.context.isLive
    · cases hrun : (d.list ℓ).runIn s with
      | mk result t =>
        cases result with
        | error e => exact .inr ⟨[], d, ds, s, rfl, .nil, fun _ => ⟨e, t, hrun⟩⟩
        | ok as =>
          rcases ih t with ⟨members, u, rfl, h⟩ | ⟨before, e, after, u, rfl, h, hfails⟩
          · exact .inl ⟨(d, as) :: members, u, rfl, .cons hlive hrun h⟩
          · exact .inr ⟨(d, as) :: before, e, after, u, rfl, .cons hlive hrun h, hfails⟩
    · exact .inr ⟨[], d, ds, s, rfl, .nil, fun h => absurd h hlive⟩

/-- A client is asked, and then those after it, unless it fails. -/
theorem listEach_cons {list : CheckClient σ → Call σ (List α)} {d : CheckClient σ}
    {ds : List (CheckClient σ)} (hlive : s.context.isLive) :
    (listEach list (d :: ds)).runIn s = match (list d).runIn s with
      | (.ok as, t) =>
        (((listEach list ds).runIn t).1.map (as :: ·), ((listEach list ds).runIn t).2)
      | (.error e, t) => (.error e, t) := by
  rw [listEach, Call.runIn_bind, Call.runIn_check, (CallContext.check_eq_ok_iff _).2 hlive]
  simp only [Call.lift]
  rw [Call.runIn_bind]
  cases (list d).runIn s with
  | mk result t =>
    cases result with
    | error e => rfl
    | ok as =>
      dsimp only
      rw [Call.runIn_bind]
      cases (listEach list ds).runIn t with
      | mk rest u => cases rest <;> rfl

/-- Clients that list in turn are listed. -/
theorem listEach_of_lists (h : ListsLive ℓ members s t) :
    (listEach (fun d => d.list ℓ) (members.map Prod.fst)).runIn s
      = (.ok (members.map Prod.snd), t) := by
  induction h with
  | nil => rfl
  | cons hlive hrun _ ih =>
    rw [List.map_cons, listEach_cons hlive, hrun]
    dsimp only
    rw [ih]
    rfl

/-- The first client that fails stops the others. -/
theorem listEach_of_fails (h : ListsLive ℓ before s t) (ht : t.context.isLive)
    {d : CheckClient σ} {e : Stop} (hd : (d.list ℓ).runIn t = (.error e, u))
    (after : List (CheckClient σ)) :
    (listEach (fun d => d.list ℓ) (before.map Prod.fst ++ d :: after)).runIn s = (.error e, u) := by
  induction h with
  | nil => rw [List.map_nil, List.nil_append, listEach_cons ht, hd]
  | cons hlive hrun _ ih =>
    rw [List.map_cons, List.cons_append, listEach_cons hlive, hrun]
    dsimp only
    rw [ih ht hd]
    rfl

/-! ## Several clients as one -/

/-- One client is asked as it stands. -/
theorem list_multi_singleton (ℓ : Listing α) (d : CheckClient σ) :
    (multi [d]).list ℓ = d.list ℓ := by
  cases ℓ <;> rfl

/-- Two clients or more are asked in turn, and what they list is sorted. -/
theorem list_multi_of_two_le (ℓ : Listing α) {ds : List (CheckClient σ)} (h : 2 ≤ ds.length) :
    (multi ds).list ℓ = listEach (fun d => d.list ℓ) ds >>= fun lists =>
      Call.ofResult (ℓ.sortUnique lists.flatten) := by
  match ds with
  | d :: e :: rest => cases ℓ <;> rfl

/-- Clients that list in turn list as one. -/
theorem list_multi_of_lists (h : ListsLive ℓ members s t)
    (hsorted : ∀ m ∈ members, ℓ.Ascending m.2) :
    ((multi (members.map Prod.fst)).list ℓ).runIn s
      = (Call.lift (ℓ.sortUnique (members.map Prod.snd).flatten), t) := by
  match members with
  | [] =>
    cases h
    have hnil : ℓ.sortUnique [] = .ok [] := Listing.Ascending.sortUnique_eq .nil
    rw [List.map_nil, List.map_nil, List.flatten_nil, hnil]
    cases ℓ with
    | rules => rfl
    | categories => exact congrArg (fun result => (Call.lift result, s)) hnil
  | [m] =>
    cases h with
    | @cons d as _ _ _ _ hlive hrun hrest =>
      cases hrest
      rw [List.map_singleton, list_multi_singleton, hrun, List.map_singleton,
        List.flatten_singleton, (hsorted (d, as) List.mem_cons_self).sortUnique_eq]
      rfl
  | m :: n :: rest =>
    rw [list_multi_of_two_le ℓ (by simp), Call.runIn_bind, listEach_of_lists h]
    rfl

/-- The first client that fails stops the listing, whoever comes after it. -/
theorem list_multi_of_fails (h : ListsLive ℓ before s t) (ht : t.context.isLive)
    {d : CheckClient σ} {e : Stop} (hd : (d.list ℓ).runIn t = (.error e, u))
    (after : List (CheckClient σ)) :
    ((multi (before.map Prod.fst ++ d :: after)).list ℓ).runIn s = (.error e, u) := by
  by_cases hone : 2 ≤ (before.map Prod.fst ++ d :: after).length
  · rw [list_multi_of_two_le ℓ hone, Call.runIn_bind, listEach_of_fails h ht hd]
  · rw [List.length_append, List.length_map, List.length_cons] at hone
    obtain rfl : before = [] := List.length_eq_zero_iff.1 (by omega)
    obtain rfl : after = [] := List.length_eq_zero_iff.1 (by omega)
    cases h
    rw [List.map_nil, List.nil_append, list_multi_singleton, hd]

/-- With some of the clients as one client the same is listed as without, if anything is. -/
theorem list_multi_nested (h : ListsLive ℓ (before ++ group ++ post) s t) (ht : t.context.isLive)
    (hsorted : ∀ m ∈ before ++ group ++ post, ℓ.Ascending m.2) {as : List α} :
    (((multi (before.map Prod.fst ++ multi (group.map Prod.fst) :: post.map Prod.fst)).list ℓ).runIn
        s).1 = .ok as ↔
      ℓ.sortUnique ((before ++ group ++ post).map Prod.snd).flatten = .ok as := by
  obtain ⟨w, hfirst, hpost⟩ := listsLive_append.1 h
  obtain ⟨v, hbefore, hgroup⟩ := listsLive_append.1 hfirst
  have hlive : v.context.isLive := hgroup.isLive (hpost.isLive ht)
  have hinner := list_multi_of_lists hgroup fun m hm =>
    hsorted m (List.mem_append_left _ (List.mem_append_right _ hm))
  cases hmerged : ℓ.sortUnique (group.map Prod.snd).flatten with
  | error e =>
    rw [hmerged] at hinner
    rw [list_multi_of_fails hbefore hlive hinner]
    refine ⟨nofun, fun hall => ?_⟩
    -- what occurs twice in the group occurs twice in the whole
    have hpart : (group.map Prod.snd).flatten.Sublist
        ((before ++ group ++ post).map Prod.snd).flatten := by
      simp only [List.map_append, List.flatten_append]
      exact (List.sublist_append_right _ _).trans (List.sublist_append_left _ _)
    obtain ⟨_, hok⟩ := ℓ.exists_sortUnique_of_sublist hpart hall
    cases hmerged.symm.trans hok
  | ok merged =>
    rw [hmerged] at hinner
    cases ℓ.settles_iff.2 hmerged with
    | listed hperm hascending =>
      generalize multi (group.map Prod.fst) = whole at hinner ⊢
      -- the group as one client lists what it merged
      have hlists : ListsLive ℓ (before ++ (whole, merged) :: post) s t :=
        listsLive_append.2 ⟨v, hbefore, .cons hlive hinner hpost⟩
      have hall : ∀ m ∈ before ++ (whole, merged) :: post, ℓ.Ascending m.2 := by
        intro m hm
        rcases List.mem_append.1 hm with hm | hm
        · exact hsorted m (List.mem_append_left _ (List.mem_append_left _ hm))
        · rcases List.mem_cons.1 hm with rfl | hm
          · exact hascending
          · exact hsorted m (List.mem_append_right _ hm)
      have hrun := list_multi_of_lists hlists hall
      have hentries : ((before ++ (whole, merged) :: post).map Prod.snd).flatten.Perm
          ((before ++ group ++ post).map Prod.snd).flatten := by
        simp only [List.map_append, List.map_cons, List.flatten_append, List.flatten_cons,
          List.append_assoc]
        exact (hperm.append_right _).append_left _
      rw [List.map_append, List.map_cons] at hrun
      rw [hrun, Call.lift_eq_ok_iff, ℓ.sortUnique_eq_of_perm hentries]

/-- What several clients list as one, whether rules or categories. In a call that goes on they all
list in turn, or there is a first that fails. The first that fails stops the listing with its fault,
and no client after it is asked. When none fails, what they list is merged. Then, if they list the
same in another order, the same comes of it, whatever the sessions. And if some of them, anywhere
among them, are one client already, the same is listed, if anything is. -/
theorem multi_merges (ℓ : Listing α) :
    (∀ (ds : List (CheckClient σ)) (s : Session σ),
      (∃ members t, members.map Prod.fst = ds ∧ ListsLive ℓ members s t) ∨
      ∃ before d after t, ds = before.map Prod.fst ++ d :: after ∧ ListsLive ℓ before s t ∧
        (t.context.isLive → ∃ e u, (d.list ℓ).runIn t = (.error e, u))) ∧
    (∀ (before : List (CheckClient σ × List α)) (d : CheckClient σ)
      (after : List (CheckClient σ)) (s t u : Session σ) (e : Stop),
      ListsLive ℓ before s t → t.context.isLive → (d.list ℓ).runIn t = (.error e, u) →
      ((multi (before.map Prod.fst ++ d :: after)).list ℓ).runIn s = (.error e, u)) ∧
    (∀ (members : List (CheckClient σ × List α)) (s t : Session σ), ListsLive ℓ members s t →
      (∀ m ∈ members, ℓ.Ascending m.2) →
      ∃ result, ℓ.Merges (members.map Prod.snd) result ∧
        ((multi (members.map Prod.fst)).list ℓ).runIn s = (Call.lift result, t)) ∧
    (∀ (members others : List (CheckClient σ × List α)) (s s' t t' : Session σ),
      members.Perm others → ListsLive ℓ members s t → ListsLive ℓ others s' t' →
      (∀ m ∈ members, ℓ.Ascending m.2) →
      (((multi (members.map Prod.fst)).list ℓ).runIn s).1
        = (((multi (others.map Prod.fst)).list ℓ).runIn s').1) ∧
    ∀ (members before group post : List (CheckClient σ × List α)) (s s' t t' : Session σ),
      members.Perm (before ++ group ++ post) → ListsLive ℓ members s t →
      ListsLive ℓ (before ++ group ++ post) s' t' → t'.context.isLive →
      (∀ m ∈ members, ℓ.Ascending m.2) →
      ∀ as, (((multi (members.map Prod.fst)).list ℓ).runIn s).1 = .ok as ↔
        (((multi (before.map Prod.fst ++ multi (group.map Prod.fst) :: post.map Prod.fst)).list
          ℓ).runIn s').1 = .ok as := by
  refine ⟨listsLive_cases ℓ,
    fun before d after s t u e hbefore ht hd => list_multi_of_fails hbefore ht hd after,
    fun members s t h hsorted => ?_, fun members others s s' t t' hperm h h' hsorted => ?_,
    fun members before group post s s' t t' hperm h h' ht' hsorted as => ?_⟩
  · refine ⟨_, (ℓ.settles_iff.2 rfl).merges ?_, list_multi_of_lists h hsorted⟩
    exact List.forall_mem_map.2 hsorted
  · rw [list_multi_of_lists h hsorted,
      list_multi_of_lists h' fun m hm => hsorted m (hperm.mem_iff.2 hm),
      ℓ.sortUnique_eq_of_perm (hperm.map Prod.snd).flatten]
  · rw [list_multi_of_lists h hsorted, Call.lift_eq_ok_iff,
      list_multi_nested h' ht' fun m hm => hsorted m (hperm.mem_iff.2 hm),
      ℓ.sortUnique_eq_of_perm (hperm.map Prod.snd).flatten]

/-- A rule in no category. -/
def loneRule (id : String) : Rule := ⟨id, [], true, "Finds nothing.", .lint, false, []⟩

/-- A client that lists one rule, in every session. -/
def lone (id : String) : CheckClient Unit where
  check _ := return {}
  listRules := return [loneRule id]
  listCategories := return []

/-- Clients that list one rule each do so in turn. -/
theorem listsLive_lone (ids : List String) : ListsLive .rules
    (ids.map fun id => (lone id, [loneRule id])) ⟨{}, ()⟩ ⟨{}, ()⟩ := by
  induction ids with
  | nil => exact .nil
  | cons id ids ih => exact .cons (by decide) rfl ih

/-- `multi_merges` for three clients, two of which are one client already: their rules are listed in
order. -/
theorem multi_merges_lone :
    let members := ["THIRD_RULE", "SECOND_RULE", "FIRST_RULE"].map fun id =>
      (lone id, [loneRule id])
    (∀ m ∈ members, Listing.rules.Ascending m.2) ∧
    (∃ result, Listing.rules.Merges (members.map Prod.snd) result ∧
      ((multi (members.map Prod.fst)).list .rules).runIn ⟨{}, ()⟩
        = (Call.lift result, ⟨{}, ()⟩)) ∧
    (((multi [lone "SECOND_RULE", multi [lone "THIRD_RULE", lone "FIRST_RULE"]]).list .rules).runIn
      ⟨{}, ()⟩).1 = .ok [loneRule "FIRST_RULE", loneRule "SECOND_RULE", loneRule "THIRD_RULE"] := by
  intro members
  have hsorted : ∀ m ∈ members, Listing.rules.Ascending m.2 := by
    intro m hm
    obtain ⟨id, -, rfl⟩ := List.mem_map.1 hm
    exact List.pairwise_singleton _ _
  obtain ⟨-, -, hmerges, -, hnested⟩ := multi_merges (σ := Unit) Listing.rules
  refine ⟨hsorted, hmerges members _ _ (listsLive_lone _) hsorted, ?_⟩
  have hflat : (((multi (members.map Prod.fst)).list .rules).runIn ⟨{}, ()⟩).1
      = .ok [loneRule "FIRST_RULE", loneRule "SECOND_RULE", loneRule "THIRD_RULE"] := by
    rw [list_multi_of_lists (listsLive_lone _) hsorted, Call.lift_eq_ok_iff]
    have hperm := List.reverse_perm
      [loneRule "THIRD_RULE", loneRule "SECOND_RULE", loneRule "FIRST_RULE"]
    exact Listing.rules.settles_iff.1 (.listed hperm (by decide))
  exact (hnested members [(lone "SECOND_RULE", [loneRule "SECOND_RULE"])]
    (["THIRD_RULE", "FIRST_RULE"].map fun id => (lone id, [loneRule id])) [] _ _ _ _
    (.swap _ _ _) (listsLive_lone _) (listsLive_lone ["SECOND_RULE", "THIRD_RULE", "FIRST_RULE"])
    (by decide) hsorted _).1 hflat

end CheckClient

end SchemaCheck
