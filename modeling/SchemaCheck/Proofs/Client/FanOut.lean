import SchemaCheck.Proofs.Demo
import SchemaCheck.Proofs.Provider.Paging

/-!
# How several clients share a check

A check over several clients first has all of them list their rules (`ListsInTurn`), and then calls
some of them in order, up to the first that fails (`CallsInTurn`). Which are called with what is a
plan (`Planned`): a client is called with its share of the rules, if it has any. The shares make up
what is asked for (`IsFanOut`), and the response has the findings of all calls
(`checkAmong_fan_out`). Nothing is assumed of the clients but what they list.
-/

namespace SchemaCheck.CheckClient

variable {σ α : Type}

/-! ## Listing -/

/-- Clients list, one after another, each in the session that the one before leaves. -/
inductive ListsInTurn (list : CheckClient σ → Call σ (List α)) :
    List (CheckClient σ) → Session σ → List (List α) → Session σ → Prop where
  | nil {s : Session σ} : ListsInTurn list [] s [] s
  | cons {d : CheckClient σ} {ds : List (CheckClient σ)} {s t u : Session σ} {as : List α}
      {rest : List (List α)} : (list d).runIn s = (.ok as, t) → ListsInTurn list ds t rest u →
      ListsInTurn list (d :: ds) s (as :: rest) u

/-- A check of the context stops a call only when the context is not live, and then at once. -/
theorem runIn_check_bind (next : Call σ α) (s : Session σ) :
    (s.context.isLive ∧ (do Call.check; next).runIn s = next.runIn s) ∨
    (¬ s.context.isLive ∧ ∃ e, (do Call.check; next).runIn s = (.error e, s)) := by
  rw [Call.runIn_bind, Call.runIn_check]
  cases hc : s.context.check with
  | ok u => exact .inl ⟨(CallContext.check_eq_ok_iff _).1 hc, rfl⟩
  | error e =>
    refine .inr ⟨fun hlive => ?_, .fault e, rfl⟩
    rw [(CallContext.check_eq_ok_iff _).2 hlive] at hc
    cases hc

/-- Clients that list when asked in turn are listed, unless the call is over before. -/
theorem ListsInTurn.runIn {list : CheckClient σ → Call σ (List α)} {ds : List (CheckClient σ)}
    {s t : Session σ} {lists : List (List α)} (h : ListsInTurn list ds s lists t) :
    (listEach list ds).runIn s = (.ok lists, t) ∨
    ∃ e u, (listEach list ds).runIn s = (.error e, u) ∧ ¬ u.context.isLive := by
  induction h with
  | nil => exact .inl rfl
  | @cons d ds s t u as rest hd _ ih =>
    rw [listEach]
    rcases runIn_check_bind _ s with ⟨-, hrun⟩ | ⟨hdead, e, hrun⟩
    · rw [hrun, Call.runIn_bind, hd]
      simp only
      rw [Call.runIn_bind]
      rcases ih with hrest | ⟨e, v, hrest, hv⟩
      · rw [hrest]
        exact .inl rfl
      · rw [hrest]
        exact .inr ⟨e, v, rfl, hv⟩
    · exact .inr ⟨e, s, hrun, hdead⟩

/-- Clients that list in turn give one listing each. -/
theorem ListsInTurn.length_eq {list : CheckClient σ → Call σ (List α)} {ds : List (CheckClient σ)}
    {s t : Session σ} {lists : List (List α)} (h : ListsInTurn list ds s lists t) :
    lists.length = ds.length := by
  induction h with
  | nil => rfl
  | cons _ _ ih => rw [List.length_cons, List.length_cons, ih]

/-! ## Calling -/

/-- A call of a client: what it listed, and the request that it is called with. -/
structure Planned (σ : Type) where
  client : CheckClient σ
  rules : List Rule
  request : Request

/-- Calls run one after another, each in the session that the one before leaves, up to the first
that has no result. -/
inductive CallsInTurn :
    List (Planned σ) → Session σ → Except Stop (List Response) → Session σ → Prop where
  | nil {s : Session σ} : CallsInTurn [] s (.ok []) s
  | stop {call : Planned σ} {plan : List (Planned σ)} {s t : Session σ} {e : Stop} :
      (call.client.check call.request).runIn s = (.error e, t) →
      CallsInTurn (call :: plan) s (.error e) t
  | next {call : Planned σ} {plan : List (Planned σ)} {s t u : Session σ} {response : Response}
      {result : Except Stop (List Response)} :
      (call.client.check call.request).runIn s = (.ok response, t) → CallsInTurn plan t result u →
      CallsInTurn (call :: plan) s (result.map (response :: ·)) u

/-- The plan for a request: each client with a share, in order, with a request for the share. -/
inductive Plan (r : Request) : List (CheckClient σ × List Rule) → List (Planned σ) → Prop where
  | nil : Plan r [] []
  | skip {d : CheckClient σ} {rules : List Rule} {rest : List (CheckClient σ × List Rule)}
      {plan : List (Planned σ)} : share r.ruleIds rules = [] → Plan r rest plan →
      Plan r ((d, rules) :: rest) plan
  | call {d : CheckClient σ} {rules : List Rule} {request : Request}
      {rest : List (CheckClient σ × List Rule)} {plan : List (Planned σ)} :
      share r.ruleIds rules ≠ [] → r.withRuleIds (share r.ruleIds rules) = .ok request →
      Plan r rest plan → Plan r ((d, rules) :: rest) (⟨d, rules, request⟩ :: plan)

/-- The findings of several responses. -/
def findingsOf (responses : List Response) : List Finding := responses.flatMap Response.findings

/-- A request for rules with well-formed identifiers can be made. -/
theorem exists_withRuleIds (r : Request) {ids : List String}
    (h : ∀ id ∈ ids, Identifier.isWellFormed .rule id) :
    ∃ request, r.withRuleIds ids = .ok request ∧ request.files = r.files ∧
      request.againstFiles = r.againstFiles ∧ request.options = r.options ∧
      ∀ id, id ∈ request.ruleIds ↔ id ∈ ids := by
  have hsorted := Text.pairwise_sortedUnique ids
  have hvalid : ∀ id ∈ Text.sortedUnique ids, Identifier.isWellFormed .rule id :=
    fun id hid => h id (Text.mem_sortedUnique.1 hid)
  refine ⟨r.withIds _ hsorted hvalid, ?_, rfl, rfl, rfl, fun id => Text.mem_sortedUnique⟩
  exact RequestBuilder.build_eq_ok_iff.2 ⟨rfl, rfl, rfl, rfl⟩

/-- The share of a client is what it lists of the rules that are asked for, or of the default ones.
-/
theorem mem_share {requested : List String} {rules : List Rule} {id : String} :
    id ∈ share requested rules ↔
      ∃ rule ∈ rules, rule.id = id ∧
        if requested = [] then rule.isDefault = true else id ∈ requested := by
  rw [share, List.mem_map]
  refine exists_congr fun rule => ?_
  rw [List.mem_filter, and_assoc]
  refine and_congr_right fun _ => ?_
  cases requested with
  | nil => exact and_comm
  | cons first rest =>
    constructor
    · rintro ⟨hmem, rfl⟩
      exact ⟨rfl, by simpa using hmem⟩
    · rintro ⟨rfl, hmem⟩
      exact ⟨by simpa using hmem, rfl⟩

/-- There is a plan when the rules that are listed have well-formed identifiers. -/
theorem exists_plan (r : Request) {entries : List (CheckClient σ × List Rule)}
    (hwf : ∀ e ∈ entries, ∀ rule ∈ e.2, Identifier.isWellFormed .rule rule.id) :
    ∃ plan, Plan r entries plan := by
  induction entries with
  | nil => exact ⟨[], .nil⟩
  | cons entry rest ih =>
    obtain ⟨d, rules⟩ := entry
    obtain ⟨plan, hplan⟩ := ih fun e he => hwf e (List.mem_cons_of_mem _ he)
    by_cases hshare : share r.ruleIds rules = []
    · exact ⟨plan, .skip hshare hplan⟩
    · have hvalid : ∀ id ∈ share r.ruleIds rules, Identifier.isWellFormed .rule id := by
        intro id hid
        obtain ⟨rule, hrule, rfl, -⟩ := mem_share.1 hid
        exact hwf _ List.mem_cons_self rule hrule
      obtain ⟨request, hrequest, -⟩ := exists_withRuleIds r hvalid
      exact ⟨_, .call hshare hrequest hplan⟩

/-- Checking shares is calling to the plan, as long as the call is live at its end. -/
theorem Plan.checkShares_runIn {r : Request} {entries : List (CheckClient σ × List Rule)}
    {plan : List (Planned σ)} (h : Plan r entries plan) (s : Session σ)
    (hlive : ((checkShares r entries).runIn s).2.context.isLive) :
    ∃ result t, CallsInTurn plan s result t ∧
      (checkShares r entries).runIn s = (result.map findingsOf, t) := by
  induction h generalizing s with
  | nil => exact ⟨.ok [], s, .nil, rfl⟩
  | skip hshare _ ih =>
    rw [checkShares, hshare] at hlive ⊢
    exact ih s hlive
  | @call d rules request rest plan hshare hrequest _ ih =>
    have hempty : (share r.ruleIds rules).isEmpty = false := List.isEmpty_eq_false_iff.2 hshare
    rw [checkShares] at hlive ⊢
    simp only [hempty, Bool.false_eq_true, if_false, hrequest] at hlive ⊢
    rcases runIn_check_bind _ s with ⟨-, hrun⟩ | ⟨hdead, e, hrun⟩
    · rw [hrun] at hlive ⊢
      rw [Call.runIn_bind, Call.runIn_ofResult] at hlive ⊢
      simp only [Call.lift] at hlive ⊢
      rw [Call.runIn_bind] at hlive ⊢
      cases hcheck : (d.check request).runIn s with
      | mk result t =>
        rw [hcheck] at hlive
        cases result with
        | error e => exact ⟨.error e, t, .stop hcheck, rfl⟩
        | ok response =>
          simp only at hlive ⊢
          rw [Call.runIn_bind] at hlive ⊢
          have hrest : ((checkShares r rest).runIn t).2.context.isLive := by
            cases hrest : (checkShares r rest).runIn t with
            | mk result u =>
              rw [hrest] at hlive
              cases result <;> exact hlive
          obtain ⟨result, u, hcalls, hrun'⟩ := ih t hrest
          refine ⟨result.map (response :: ·), u, .next hcheck hcalls, ?_⟩
          rw [hrun']
          cases result <;> rfl
    · rw [hrun] at hlive
      exact absurd hlive hdead

/-! ## What a plan shares out -/

section

variable {r : Request} {entries : List (CheckClient σ × List Rule)} {plan : List (Planned σ)}

/-- Who is called, with what was listed, is a part of who listed what. -/
theorem Plan.sublist (h : Plan r entries plan) :
    (plan.map fun call => (call.client, call.rules)).Sublist entries := by
  induction h with
  | nil => exact .slnil
  | skip _ _ ih => exact ih.cons _
  | call _ _ _ ih => exact ih.cons_cons _

/-- A call asks for a share, and for nothing else. -/
theorem Plan.request_of_mem (h : Plan r entries plan) {call : Planned σ} (hcall : call ∈ plan) :
    share r.ruleIds call.rules ≠ [] ∧
      r.withRuleIds (share r.ruleIds call.rules) = .ok call.request := by
  induction h with
  | nil => cases hcall
  | skip _ _ ih => exact ih hcall
  | call hshare hrequest _ ih =>
    rcases List.mem_cons.1 hcall with rfl | hcall
    · exact ⟨hshare, hrequest⟩
    · exact ih hcall

/-- The rules of a request that was made for a share are the share. -/
theorem mem_ruleIds_of_withRuleIds {request : Request} {ids : List String}
    (h : r.withRuleIds ids = .ok request) {id : String} : id ∈ request.ruleIds ↔ id ∈ ids := by
  rw [(RequestBuilder.build_eq_ok_iff.1 h).2.2.1]
  exact Text.mem_sortedUnique

/-- The calls together ask for the shares of all. -/
theorem Plan.mem_iff (h : Plan r entries plan) {id : String} :
    (∃ call ∈ plan, id ∈ call.request.ruleIds) ↔ ∃ e ∈ entries, id ∈ share r.ruleIds e.2 := by
  induction h with
  | nil => simp
  | skip hshare _ ih => simp [ih, hshare]
  | call _ hrequest _ ih => simp [ih, mem_ruleIds_of_withRuleIds hrequest]

/-- When no rule is listed twice, no rule is asked for twice. -/
theorem Plan.disjoint (h : Plan r entries plan)
    (hnodup : ((entries.flatMap fun e => e.2).map Rule.id).Nodup) :
    plan.Pairwise fun a b => ∀ id ∈ a.request.ruleIds, id ∉ b.request.ruleIds := by
  induction h with
  | nil => exact .nil
  | skip _ _ ih =>
    rw [List.flatMap_cons, List.map_append] at hnodup
    exact ih (List.nodup_append.1 hnodup).2.1
  | @call d rules request rest plan _ hrequest hplan ih =>
    rw [List.flatMap_cons, List.map_append] at hnodup
    obtain ⟨-, hrest, hdisjoint⟩ := List.nodup_append.1 hnodup
    refine .cons (fun call hcall id hid hmem => ?_) (ih hrest)
    obtain ⟨rule, hrule, rfl, -⟩ := mem_share.1 ((mem_ruleIds_of_withRuleIds hrequest).1 hid)
    obtain ⟨e, he, hshare⟩ := hplan.mem_iff.1 ⟨call, hcall, hmem⟩
    obtain ⟨rule', hrule', hid', -⟩ := mem_share.1 hshare
    have hlater : rule'.id ∈ (rest.flatMap fun e => e.2).map Rule.id :=
      List.mem_map.2 ⟨rule', List.mem_flatMap.2 ⟨e, he, hrule'⟩, rfl⟩
    exact hdisjoint _ (List.mem_map.2 ⟨rule, hrule, rfl⟩) _ hlater hid'.symm

end

/-- The calls share out what a request asks for among clients that listed rules: in order, no client
without rules, each with rules of its own, no rule twice, all that is asked for, or all default
rules when nothing is, and nothing else in the request changed. -/
structure IsFanOut (ds : List (CheckClient σ)) (lists : List (List Rule)) (r : Request)
    (plan : List (Planned σ)) : Prop where
  inOrder : (plan.map fun call => (call.client, call.rules)).Sublist (ds.zip lists)
  nonempty : ∀ call ∈ plan, call.request.ruleIds ≠ []
  own : ∀ call ∈ plan, ∀ id ∈ call.request.ruleIds, id ∈ call.rules.map Rule.id
  disjoint : plan.Pairwise fun a b => ∀ id ∈ a.request.ruleIds, id ∉ b.request.ruleIds
  covers : ∀ id, (∃ call ∈ plan, id ∈ call.request.ruleIds) ↔
    if r.ruleIds = [] then ∃ rule ∈ lists.flatten, rule.isDefault ∧ rule.id = id else id ∈ r.ruleIds
  unchanged : ∀ call ∈ plan, call.request.files = r.files ∧
    call.request.againstFiles = r.againstFiles ∧ call.request.options = r.options

/-- A plan for clients that listed all rules that are asked for shares these out. -/
theorem Plan.isFanOut {r : Request} {ds : List (CheckClient σ)} {lists : List (List Rule)}
    {plan : List (Planned σ)} (h : Plan r (ds.zip lists) plan) (hlength : lists.length = ds.length)
    (hnodup : (lists.flatten.map Rule.id).Nodup)
    (hlisted : ∀ id ∈ r.ruleIds, id ∈ lists.flatten.map Rule.id) : IsFanOut ds lists r plan := by
  have hflat : ((ds.zip lists).flatMap fun e => e.2) = lists.flatten := by
    rw [List.flatMap_def, List.map_snd_zip (Nat.le_of_eq hlength)]
  refine ⟨h.sublist, fun call hcall => ?_, fun call hcall id hid => ?_, ?_, fun id => ?_,
    fun call hcall => ?_⟩
  · obtain ⟨hshare, hrequest⟩ := h.request_of_mem hcall
    obtain ⟨id, hid⟩ := List.exists_mem_of_ne_nil _ hshare
    exact List.ne_nil_of_mem ((mem_ruleIds_of_withRuleIds hrequest).2 hid)
  · obtain ⟨-, hrequest⟩ := h.request_of_mem hcall
    obtain ⟨rule, hrule, rfl, -⟩ := mem_share.1 ((mem_ruleIds_of_withRuleIds hrequest).1 hid)
    exact List.mem_map.2 ⟨rule, hrule, rfl⟩
  · exact h.disjoint (hflat ▸ hnodup)
  -- the shares together have what the listings have together
  · have hrules : ∀ rule, (∃ e ∈ ds.zip lists, rule ∈ e.2) ↔ rule ∈ lists.flatten := fun rule => by
      rw [← hflat, List.mem_flatMap]
    have hshares : (∃ e ∈ ds.zip lists, id ∈ share r.ruleIds e.2) ↔ ∃ rule ∈ lists.flatten,
        rule.id = id ∧ if r.ruleIds = [] then rule.isDefault = true else id ∈ r.ruleIds := by
      constructor
      · rintro ⟨e, he, hid⟩
        obtain ⟨rule, hrule, hmatch⟩ := mem_share.1 hid
        exact ⟨rule, (hrules rule).1 ⟨e, he, hrule⟩, hmatch⟩
      · rintro ⟨rule, hrule, hmatch⟩
        obtain ⟨e, he, hmem⟩ := (hrules rule).2 hrule
        exact ⟨e, he, mem_share.2 ⟨rule, hmem, hmatch⟩⟩
    rw [h.mem_iff, hshares]
    split
    · exact exists_congr fun rule => and_congr_right fun _ => and_comm
    · constructor
      · rintro ⟨rule, -, -, hid⟩
        exact hid
      · intro hid
        obtain ⟨rule, hrule, heq⟩ := List.mem_map.1 (hlisted id hid)
        exact ⟨rule, hrule, heq, hid⟩
  · obtain ⟨-, hrequest⟩ := h.request_of_mem hcall
    obtain ⟨hfiles, hagainst, -, hoptions⟩ := RequestBuilder.build_eq_ok_iff.1 hrequest
    exact ⟨hfiles, hagainst, (Except.ok.inj hoptions).symm⟩

/-! ## Checking with two clients or more -/

/-- What comes of the calls: the fault of the one that has no response, or one response with the
findings of all, in order. -/
inductive Merges : Except Stop (List Response) → Except Stop Response → Prop where
  | error (e : Stop) : Merges (.error e) (.error e)
  | ok {responses : List Response} {response : Response} :
      response.findings.Perm (responses.flatMap Response.findings) →
      response.findings.Pairwise (fun f g => f.compare g ≠ .gt) →
        Merges (.ok responses) (.ok response)

/-- The responses of several calls are put together as findings in order, and a fault stays. -/
theorem merges_ofFindings (result : Except Stop (List Response)) :
    Merges result (result.map fun responses => Response.ofFindings (findingsOf responses)) := by
  cases result with
  | error e => exact .error e
  | ok responses => exact .ok (Finding.sort_perm _) (Finding.pairwise_sort _)

/-- The rules that are asked for and not listed. -/
def unlisted (r : Request) (lists : List (List Rule)) : List String :=
  r.ruleIds.filter fun id => !lists.flatten.any fun rule => rule.id == id

/-- A rule is unlisted when it is asked for and no client lists it. -/
theorem mem_unlisted {r : Request} {lists : List (List Rule)} {id : String} :
    id ∈ unlisted r lists ↔ id ∈ r.ruleIds ∧ id ∉ lists.flatten.map Rule.id := by
  rw [unlisted, List.mem_filter]
  simp

/-- Has each client check its share, and gives one response with the findings of all. -/
def mergeShares (r : Request) (entries : List (CheckClient σ × List Rule)) : Call σ Response := do
  let findings ← checkShares r entries
  return Response.ofFindings findings

/-- Once several clients have listed their rules, those that none of them listed are refused, and
else their shares are checked. -/
theorem checkAmong_runIn (r : Request) {ds : List (CheckClient σ)} {s t : Session σ}
    {lists : List (List Rule)} (hlists : (listEach listRules ds).runIn s = (.ok lists, t))
    (hnodup : (lists.flatten.map Rule.id).Nodup) :
    (checkAmong ds r).runIn s = match unlisted r lists with
      | [] => (mergeShares r (ds.zip lists)).runIn t
      | ids => (.error (.fault (.unknownRules ids)), t) := by
  have hany : ∀ id, (sortByKey Rule.id lists.flatten).any (fun rule => rule.id == id)
      = lists.flatten.any fun rule => rule.id == id := fun id =>
    (sortByKey_perm Rule.id _).any_eq
  rw [checkAmong, Call.runIn_bind, hlists]
  simp only
  rw [Call.runIn_bind, Rule.sortUnique_eq_ok hnodup, Call.runIn_ofResult]
  simp only [Call.lift, hany]
  rw [unlisted]
  generalize r.ruleIds.filter (fun id => !lists.flatten.any fun rule => rule.id == id) = ids
  cases ids <;> rfl

/-- Checking shares to a plan, in a call that stays live, gives one response with all findings. -/
theorem Plan.mergeShares_runIn {r : Request} {entries : List (CheckClient σ × List Rule)}
    {plan : List (Planned σ)} (h : Plan r entries plan) (s : Session σ)
    (hlive : ((mergeShares r entries).runIn s).2.context.isLive) :
    ∃ result t, CallsInTurn plan s result t ∧ (mergeShares r entries).runIn s
      = (result.map fun responses => Response.ofFindings (findingsOf responses), t) := by
  rw [mergeShares, Call.runIn_bind] at hlive ⊢
  have hshares : ((checkShares r entries).runIn s).2.context.isLive := by
    cases hrest : (checkShares r entries).runIn s with
    | mk result u =>
      rw [hrest] at hlive
      cases result <;> exact hlive
  obtain ⟨result, t, hcalls, hrun⟩ := h.checkShares_runIn s hshares
  refine ⟨result, t, hcalls, ?_⟩
  rw [hrun]
  cases result <;> rfl

/-- Two clients or more share a check: when some of the rules that are asked for are listed by none,
exactly these are reported, in ascending order, and no client is called; and else the clients are
called to a plan that shares out what is asked for, up to the first call that has no response, and
the response has the findings of all. The clients list rules with well-formed identifiers, all
different, and the call is live at its end; nothing else is asked of them. -/
theorem multi_check_fan_out {ds : List (CheckClient σ)} (hds : 2 ≤ ds.length) (r : Request)
    {s t : Session σ} {lists : List (List Rule)} (hlists : ListsInTurn listRules ds s lists t)
    (hwf : ∀ rule ∈ lists.flatten, Identifier.isWellFormed .rule rule.id)
    (hnodup : (lists.flatten.map Rule.id).Nodup)
    (hlive : (((multi ds).check r).runIn s).2.context.isLive) :
    ((∃ id ∈ r.ruleIds, id ∉ lists.flatten.map Rule.id) →
      ∃ ids, ((multi ds).check r).runIn s = (.error (.fault (.unknownRules ids)), t) ∧
        ids.Pairwise (· < ·) ∧ ∀ id, id ∈ ids ↔ id ∈ r.ruleIds ∧ id ∉ lists.flatten.map Rule.id) ∧
    ((∀ id ∈ r.ruleIds, id ∈ lists.flatten.map Rule.id) →
      ∃ plan result outcome u, IsFanOut ds lists r plan ∧ CallsInTurn plan t result u ∧
        ((multi ds).check r).runIn s = (outcome, u) ∧ Merges result outcome) := by
  have hmulti : (multi ds).check r = checkAmong ds r := by
    match ds, hds with
    | _ :: _ :: _, _ => rfl
  rw [hmulti] at hlive ⊢
  have hlisting : (listEach listRules ds).runIn s = (.ok lists, t) := by
    rcases hlists.runIn with hrun | ⟨e, u, hrun, hdead⟩
    · exact hrun
    · rw [checkAmong, Call.runIn_bind, hrun] at hlive
      exact absurd hlive hdead
  have hrun := checkAmong_runIn r hlisting hnodup
  constructor
  · rintro ⟨id, hid, hnot⟩
    refine ⟨unlisted r lists, ?_, r.ids_sorted.filter _, fun id => mem_unlisted⟩
    have hmem : id ∈ unlisted r lists := mem_unlisted.2 ⟨hid, hnot⟩
    rw [hrun]
    cases hids : unlisted r lists with
    | nil => rw [hids] at hmem; cases hmem
    | cons first rest => rfl
  · intro hlisted
    have hnone : unlisted r lists = [] :=
      List.eq_nil_iff_forall_not_mem.2 fun id hid =>
        (mem_unlisted.1 hid).2 (hlisted id (mem_unlisted.1 hid).1)
    rw [hrun, hnone] at hlive ⊢
    simp only at hlive ⊢
    have hentries : ∀ e ∈ ds.zip lists, ∀ rule ∈ e.2, Identifier.isWellFormed .rule rule.id := by
      intro e he rule hrule
      exact hwf rule (List.mem_flatten.2 ⟨e.2, (List.of_mem_zip he).2, hrule⟩)
    obtain ⟨plan, hplan⟩ := exists_plan r hentries
    obtain ⟨result, u, hcalls, hrest⟩ := hplan.mergeShares_runIn t hlive
    exact ⟨plan, result, _, u, hplan.isFanOut hlists.length_eq hnodup hlisted, hcalls, hrest,
      merges_ofFindings result⟩

/-- A client that lists one of the demonstration rules and never finds anything. -/
def silent (rule : RuleSpec) : CheckClient Unit where
  check _ := return {}
  listRules := return [⟨rule.id, [], rule.isDefault, rule.purpose, rule.type, false, []⟩]
  listCategories := return []

/-- A silent client leaves the context alone. -/
theorem silent_respects (rule : RuleSpec) : (silent rule).Respects Eq :=
  ⟨fun _ _ => rfl, fun _ => rfl, fun _ => rfl⟩

/-- `multi_check_fan_out` for a request for a rule of the first of two clients. -/
theorem multi_check_fan_out_silent :
    ∃ lists plan result outcome u,
      IsFanOut [silent Demo.dialectRule, silent Demo.timestampRule] lists Demo.request plan ∧
      CallsInTurn plan ⟨{}, ()⟩ result u ∧
      ((multi [silent Demo.dialectRule, silent Demo.timestampRule]).check Demo.request).runIn
        ⟨{}, ()⟩ = (outcome, u) ∧ Merges result outcome := by
  have hlive : (((multi [silent Demo.dialectRule, silent Demo.timestampRule]).check
      Demo.request).runIn ⟨{}, ()⟩).2.context.isLive := by
    have hrespects : (multi [silent Demo.dialectRule, silent Demo.timestampRule]).Respects Eq :=
      multi_respects CallContext.eq_isChange (by simp [silent_respects])
    rw [← hrespects.check]
    decide
  exact ⟨_, (multi_check_fan_out (by decide) Demo.request (.cons rfl (.cons rfl .nil))
    (by decide +kernel) (by decide +kernel) hlive).2 (by decide +kernel)⟩

end SchemaCheck.CheckClient
