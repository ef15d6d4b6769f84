import Mathlib.Data.List.Perm.Basic
import SchemaCheck.Proofs.Client.FanOut
import SchemaCheck.Proofs.Client.Serving

/-!
# Several providers as one

Several specs put together are one spec (`Spec.concat`). Clients that serve the parts serve, as one
client, the whole (`CheckClient.multi_serves`): what each lists is its part of what the whole lists,
and the shares that are checked choose, part by part, the rules that the whole chooses
(`Plan.checked`). So several clients of providers in the same program behave as one client of a
provider of everything (`CheckClient.multi_agrees_concat`).
-/

namespace SchemaCheck

variable {σ τ α : Type}

/-- The spec with the rules and the categories of several, in order. -/
def Spec.concat (specs : List Spec) : Spec where
  rules := specs.flatMap Spec.rules
  categories := specs.flatMap Spec.categories

namespace Spec

variable {spec : Spec} {specs : List Spec}

/-- The concatenation of one spec without a hook is this spec. -/
theorem concat_singleton (h : spec.before = none) : concat [spec] = spec := by
  obtain ⟨rules, categories, before⟩ := spec
  simp only at h
  subst h
  simp [concat]

/-- The entries of a concatenation are those of its specs, in order. -/
theorem ruleEntries_concat (specs : List Spec) :
    (concat specs).ruleEntries = specs.flatMap ruleEntries :=
  List.map_flatMap

/-- Specs put together choose what each of them chooses. -/
theorem chosen_concat (specs : List Spec) (ids : List String) :
    (concat specs).chosen ids = specs.flatMap fun spec => spec.chosen ids :=
  List.filter_flatMap

section

variable (hvalid : ∀ spec ∈ specs, spec.IsValid) (hconcat : (concat specs).IsValid)

include hvalid hconcat

/-- What each of several specs lists, together, is what is listed of them put together, in another
order. -/
theorem flatten_listedRules_perm :
    ((specs.map listedRules).flatten).Perm (concat specs).listedRules := by
  have hamong : ∀ spec ∈ specs, spec.listedRules.Perm
      (spec.ruleEntries.map (Rule.among (concat specs).categories)) := by
    intro spec hspec
    have hsub : spec.categories ⊆ (concat specs).categories := fun c hc =>
      List.mem_flatMap.2 ⟨spec, hspec, hc⟩
    have hsame : spec.ruleEntries.map (Rule.among (concat specs).categories)
        = spec.ruleEntries.map (Rule.among spec.categories) :=
      List.map_congr_left fun e he => Rule.among_eq_of_subset hsub hconcat.nodup_categoryIds
        ((hvalid spec hspec).categoryIds_known he)
    rw [hsame]
    exact spec.listedRules_perm
  have hflat : ((specs.map listedRules).flatten).Perm
      ((concat specs).ruleEntries.map (Rule.among (concat specs).categories)) := by
    rw [← List.flatMap_def, ruleEntries_concat, List.map_flatMap]
    exact List.Perm.flatMap_left specs hamong
  exact hflat.trans (listedRules_perm _).symm

/-- Listed rules of all specs together have distinct identifiers when the concatenation is valid. -/
theorem nodup_flatten_listedRules : ((specs.map listedRules).flatten.map Rule.id).Nodup :=
  (((flatten_listedRules_perm hvalid hconcat).map Rule.id).trans
    (map_id_listedRules_perm _)).nodup_iff.2 hconcat.nodup_ruleIds

/-- What the specs list of rules, merged, is what their concatenation lists. -/
theorem sortUnique_flatten_listedRules :
    Rule.sortUnique (specs.map listedRules).flatten = .ok (concat specs).listedRules := by
  have hnodup := nodup_flatten_listedRules hvalid hconcat
  rw [Rule.sortUnique_eq_ok hnodup,
    sortByKey_eq_of_perm (flatten_listedRules_perm hvalid hconcat) hnodup, listedRules,
    sortByKey_sortByKey]

omit hvalid in
/-- What the specs list of categories, merged, is what their concatenation lists. -/
theorem sortUnique_flatten_listedCategories :
    Category.sortUnique (specs.map listedCategories).flatten
      = .ok (concat specs).listedCategories := by
  have hperm : ((specs.map listedCategories).flatten).Perm (concat specs).categories := by
    rw [← List.flatMap_def]
    exact List.Perm.flatMap_left specs fun spec _ => sortByKey_perm Category.id spec.categories
  have hnodup : ((specs.map listedCategories).flatten.map Category.id).Nodup :=
    (hperm.map Category.id).nodup_iff.2 hconcat.nodup_categoryIds
  rw [Category.sortUnique_eq_ok hnodup, sortByKey_eq_of_perm hperm hnodup]
  rfl

end

end Spec

/-! ## Shares -/

namespace Spec

open CheckClient (share mem_share)

variable {spec : Spec}

/-- A listed rule is one that is declared, with its categories. -/
theorem mem_listedRules {rule : Rule} : rule ∈ spec.listedRules ↔
    ∃ declared ∈ spec.rules, Rule.among spec.categories declared.toRuleEntry = rule := by
  rw [spec.listedRules_perm.mem_iff, ruleEntries, List.map_map]
  exact List.mem_map

/-- The share of a client that lists a spec is what the spec chooses. -/
theorem mem_share_listedRules {requested : List String} {id : String} :
    id ∈ share requested spec.listedRules ↔ ∃ rule ∈ spec.chosen requested, rule.id = id := by
  have hchosen : ∀ rule, rule ∈ spec.chosen requested ↔ rule ∈ spec.rules ∧
      if requested = [] then rule.isDefault = true else rule.id ∈ requested := by
    intro rule
    rw [chosen, List.mem_filter]
    refine and_congr_right fun _ => ?_
    cases requested <;> simp
  rw [mem_share]
  constructor
  · rintro ⟨listed, hlisted, rfl, hasked⟩
    obtain ⟨rule, hrule, rfl⟩ := mem_listedRules.1 hlisted
    exact ⟨rule, (hchosen rule).2 ⟨hrule, hasked⟩, rfl⟩
  · rintro ⟨rule, hrule, rfl⟩
    obtain ⟨hmem, hasked⟩ := (hchosen rule).1 hrule
    exact ⟨_, mem_listedRules.2 ⟨rule, hmem, rfl⟩, rfl, hasked⟩

/-- To name the rules that are chosen is to choose them, be they named before or chosen by default.
-/
theorem chosen_of_mem_iff (hvalid : spec.IsValid) {ids requested : List String} (hne : ids ≠ [])
    (h : ∀ id, id ∈ ids ↔ ∃ rule ∈ spec.chosen requested, rule.id = id) :
    spec.chosen ids = spec.chosen requested := by
  have hmem : ∀ rule ∈ spec.rules, rule.id ∈ ids ↔ rule ∈ spec.chosen requested := by
    intro rule hrule
    rw [h]
    constructor
    · rintro ⟨other, hother, hid⟩
      obtain rfl :=
        List.inj_on_of_nodup_map hvalid.nodup_ruleIds (mem_of_mem_chosen hother) hrule hid
      exact hother
    · exact fun hchosen => ⟨rule, hchosen, rfl⟩
  unfold chosen at hmem ⊢
  refine List.filter_congr fun rule hrule => ?_
  rw [List.isEmpty_eq_false_iff.2 hne, Bool.eq_iff_iff]
  simpa [List.mem_filter, hrule] using hmem rule hrule

end Spec

/-! ## Checking shares -/

/-- A request for other rules is nested as deep. -/
theorem Request.SameInputs.depth_message_eq {r s : Request} (h : r.SameInputs s)
    (ids ids' : List String) : (CheckMessage.codec.encode (r.message ids)).depth
      = (CheckMessage.codec.encode (s.message ids')).depth := by
  have hmessage : r.message ids = s.message ids := by
    unfold Request.message
    rw [h.files, h.againstFiles, h.options]
  rw [hmessage, s.depth_message_eq ids ids']

/-- Findings about the files of one request are about the same files of the other. -/
theorem Request.SameInputs.isOf {r s : Request} (h : r.SameInputs s) {f : Finding}
    (hf : f.IsOf r) : f.IsOf s := by
  unfold Finding.IsOf at hf ⊢
  rw [← h.files, ← h.againstFiles]
  exact hf

/-- A request that was made for a share differs in its rules at most. -/
theorem Request.sameInputs_of_withRuleIds {r request : Request} {ids : List String}
    (h : r.withRuleIds ids = .ok request) : request.SameInputs r := by
  obtain ⟨hfiles, hagainst, -, hoptions⟩ := RequestBuilder.build_eq_ok_iff.1 h
  exact ⟨hfiles, hagainst, (Except.ok.inj hoptions).symm⟩

/-- What may come of running rules: findings that say what the rules find, or a fault when one of
them fails. -/
inductive RuleSpec.Checked (r : Request) (rules : List RuleSpec) : Except Stop (List Finding) → Prop
  where
  | found {fs : List Finding} {es : List FindingEntry} : RuleSpec.FindsAll r rules es →
      (fs.map Finding.entry).Perm es → (∀ f ∈ fs, f.IsOf r) → Checked r rules (.ok fs)
  | fails {rule : RuleSpec} {e : Fault} : rule ∈ rules → rule.Fails r →
      Checked r rules (.error (.fault e))

namespace RuleSpec.Checked

variable {r : Request} {rules others : List RuleSpec}

/-- A fault of the first rules is one of all. -/
theorem stop {e : Stop} (h : Checked r rules (.error e)) :
    Checked r (rules ++ others) (.error e) := by
  cases h with
  | fails hrule hfails => exact .fails (List.mem_append_left _ hrule) hfails

/-- The findings of the first rules come before what comes of the others. -/
theorem next {fs : List Finding} {result : Except Stop (List Finding)}
    (h : Checked r rules (.ok fs)) (hrest : Checked r others result) :
    Checked r (rules ++ others) (result.map (fs ++ ·)) := by
  cases h with
  | found hfound hperm hof =>
    cases hrest with
    | found hfound' hperm' hof' =>
      refine .found (hfound.append hfound') ?_ fun f hf => ?_
      · rw [List.map_append]
        exact hperm.append hperm'
      · exact (List.mem_append.1 hf).elim (hof f) (hof' f)
    | fails hrule hfails => exact .fails (List.mem_append_right _ hrule) hfails

/-- A response with findings that were checked is an answer to the request. -/
theorem answered {spec : Spec} {result : Except Stop (List Finding)}
    (h : Checked r (spec.chosen r.ruleIds) result) (hids : ∀ id ∈ r.ruleIds, id ∈ spec.ruleIds) :
    spec.Answered r (result.map Response.ofFindings) := by
  cases h with
  | @found fs es hfound hperm hof =>
    refine .response ?_ fun f hf => hof f ((Finding.sort_perm _).mem_iff.1 hf)
    have hreply : (Response.ofFindings fs).reply.findings
        = FindingEntry.sort (fs.map Finding.entry) := Finding.map_entry_sort fs
    rw [hreply, FindingEntry.sort_eq_of_perm hperm]
    exact .found hids hfound
  | fails hrule hfails => exact .fault (.fails hrule hfails)

end RuleSpec.Checked

/-- An answer to a request for known rules is what comes of running those rules, also for another
request about the same files. -/
theorem Spec.Answered.checked {spec : Spec} {request r : Request} {result : Except Stop Response}
    (h : spec.Answered request result) (hsame : request.SameInputs r)
    (hids : ∀ id ∈ request.ruleIds, id ∈ spec.ruleIds) :
    RuleSpec.Checked r (spec.chosen request.ruleIds) (result.map Response.findings) := by
  cases h with
  | @response response hverdict hof =>
    obtain ⟨-, es, hfound, hentries⟩ := hverdict.exists_findsAll
    refine .found (hfound.congr hsame) ?_ fun f hf => hsame.isOf (hof f hf)
    have hmap : response.findings.map Finding.entry = FindingEntry.sort es := hentries
    rw [hmap]
    exact FindingEntry.sort_perm es
  | fault hverdict =>
    cases hverdict with
    | unknown hid hnot => exact absurd (hids _ hid) hnot
    | fails hrule hfails => exact .fails hrule (hfails.congr hsame)

namespace CheckClient

variable {P : Session σ → Prop} {r : Request}

/-- Calls that are live at their end were live throughout. -/
theorem CallsInTurn.isLive {plan : List (Planned σ)} {s t : Session σ}
    {result : Except Stop (List Response)} (h : CallsInTurn plan s result t)
    (hevolves : ∀ call ∈ plan, ∀ r, (call.client.check r).Respects CallContext.Evolves)
    (hlive : t.context.isLive) : s.context.isLive := by
  induction h with
  | nil => exact hlive
  | @stop call plan s t e hrun =>
    have hcall := hevolves call List.mem_cons_self call.request s
    rw [hrun] at hcall
    exact hcall.isLive hlive
  | @next call plan s t u response result hrun _ ih =>
    have hcall := hevolves call List.mem_cons_self call.request s
    rw [hrun] at hcall
    exact hcall.isLive (ih (fun call h => hevolves call (List.mem_cons_of_mem _ h)) hlive)

/-- A call for the share of a client comes to what the rules find that its spec chooses. -/
theorem Serves.check_share {d : CheckClient σ} {spec : Spec} (h : d.Serves P spec)
    (hvalid : spec.IsValid) (hdepth : (CheckMessage.codec.encode (r.message r.ruleIds)).depth ≤ 127)
    {request : Request} (hshare : share r.ruleIds spec.listedRules ≠ [])
    (hrequest : r.withRuleIds (share r.ruleIds spec.listedRules) = .ok request) {s : Session σ}
    (hs : P s) (hlive : ((d.check request).runIn s).2.context.isLive) :
    RuleSpec.Checked r (spec.chosen r.ruleIds)
        (((d.check request).runIn s).1.map Response.findings) ∧
      P ((d.check request).runIn s).2 := by
  have hsame : request.SameInputs r := Request.sameInputs_of_withRuleIds hrequest
  have hmem : ∀ id, id ∈ request.ruleIds ↔ ∃ rule ∈ spec.chosen r.ruleIds, rule.id = id :=
    fun id => (mem_ruleIds_of_withRuleIds hrequest).trans Spec.mem_share_listedRules
  have hne : request.ruleIds ≠ [] := by
    obtain ⟨id, hid⟩ := List.exists_mem_of_ne_nil _ hshare
    exact List.ne_nil_of_mem ((mem_ruleIds_of_withRuleIds hrequest).2 hid)
  have hids : ∀ id ∈ request.ruleIds, id ∈ spec.ruleIds := by
    intro id hid
    obtain ⟨rule, hrule, rfl⟩ := (hmem id).1 hid
    exact List.mem_map.2 ⟨rule, Spec.mem_of_mem_chosen hrule, rfl⟩
  have hdepth' : (CheckMessage.codec.encode (request.message request.ruleIds)).depth ≤ 127 := by
    rw [hsame.depth_message_eq request.ruleIds r.ruleIds]
    exact hdepth
  obtain ⟨hanswered, ht⟩ := h.check request s hdepth' hs hlive
  refine ⟨?_, ht⟩
  rw [← Spec.chosen_of_mem_iff hvalid hne hmem]
  exact hanswered.checked hsame hids

/-- A client with nothing to share serves a spec that chooses nothing. -/
theorem chosen_eq_nil_of_share {spec : Spec} (h : share r.ruleIds spec.listedRules = []) :
    spec.chosen r.ruleIds = [] := by
  refine List.eq_nil_iff_forall_not_mem.2 fun rule hrule => ?_
  have hid : rule.id ∈ share r.ruleIds spec.listedRules :=
    Spec.mem_share_listedRules.2 ⟨rule, hrule, rfl⟩
  rw [h] at hid
  cases hid

section

variable {members : List (CheckClient σ × Spec)} (hserves : ∀ m ∈ members, m.1.Serves P m.2)

include hserves

/-- The clients of a plan are of those that serve, and so let the context evolve. -/
theorem Plan.evolves {plan : List (Planned σ)}
    (hplan : Plan r (members.map fun m => (m.1, m.2.listedRules)) plan) :
    ∀ call ∈ plan, ∀ r, (call.client.check r).Respects CallContext.Evolves := by
  intro call hcall
  have hmem := hplan.sublist.subset (List.mem_map.2 ⟨call, hcall, rfl⟩)
  obtain ⟨m, hm, heq⟩ := List.mem_map.1 hmem
  have hclient : m.1 = call.client := congrArg Prod.fst heq
  rw [← hclient]
  exact (hserves m hm).evolves.check

variable (hvalid : ∀ m ∈ members, m.2.IsValid)

include hvalid

/-- Calls to a plan, in a call that stays live, come to what the rules find that the specs choose.
The induction is on the clients; each is called in the session that those before it leave. -/
theorem Plan.checked (hdepth : (CheckMessage.codec.encode (r.message r.ruleIds)).depth ≤ 127)
    {plan : List (Planned σ)} (hplan : Plan r (members.map fun m => (m.1, m.2.listedRules)) plan)
    {s t : Session σ} {result : Except Stop (List Response)} (hcalls : CallsInTurn plan s result t)
    (hs : P s) (hlive : t.context.isLive) :
    RuleSpec.Checked r (members.flatMap fun m => m.2.chosen r.ruleIds) (result.map findingsOf) ∧
      P t := by
  induction members generalizing plan s result with
  | nil =>
    cases hplan
    cases hcalls
    exact ⟨.found .nil (.refl _) (fun _ h => nomatch h), hs⟩
  | cons m members ih =>
    have hm := hserves m List.mem_cons_self
    have hmvalid := hvalid m List.mem_cons_self
    have hrest := fun n hn => hserves n (List.mem_cons_of_mem m hn)
    have ih := @ih hrest fun n hn => hvalid n (List.mem_cons_of_mem _ hn)
    rw [List.map_cons] at hplan
    rw [List.flatMap_cons]
    cases hplan with
    | skip hshare hplan =>
      rw [chosen_eq_nil_of_share hshare]
      exact ih hplan hcalls hs
    | @call _ _ request _ plan hshare hrequest hplan =>
      cases hcalls with
      | stop hrun =>
        have hchecked :=
          hm.check_share hmvalid hdepth hshare hrequest hs (by rw [hrun]; exact hlive)
        rw [hrun] at hchecked
        exact ⟨hchecked.1.stop, hchecked.2⟩
      | @next _ _ _ u _ response result hrun hcalls =>
        have hu : u.context.isLive := hcalls.isLive (hplan.evolves hrest) hlive
        have hchecked := hm.check_share hmvalid hdepth hshare hrequest hs (by rw [hrun]; exact hu)
        rw [hrun] at hchecked
        obtain ⟨hothers, ht⟩ := ih hplan hcalls hchecked.2
        refine ⟨?_, ht⟩
        have hnext := hchecked.1.next hothers
        cases result <;> exact hnext

/-- Checking the shares of clients, for a request for known rules, is an answer to it. -/
theorem mergeShares_answered
    (hdepth : (CheckMessage.codec.encode (r.message r.ruleIds)).depth ≤ 127)
    (hids : ∀ id ∈ r.ruleIds, id ∈ (Spec.concat (members.map Prod.snd)).ruleIds) {s : Session σ}
    (hs : P s) (hlive : ((mergeShares r (members.map fun m =>
      (m.1, m.2.listedRules))).runIn s).2.context.isLive) :
    (Spec.concat (members.map Prod.snd)).Answered r
        ((mergeShares r (members.map fun m => (m.1, m.2.listedRules))).runIn s).1 ∧
      P ((mergeShares r (members.map fun m => (m.1, m.2.listedRules))).runIn s).2 := by
  have hwf : ∀ e ∈ members.map fun m => (m.1, m.2.listedRules), ∀ rule ∈ e.2,
      Identifier.isWellFormed .rule rule.id := by
    intro e he rule hrule
    obtain ⟨m, hm, rfl⟩ := List.mem_map.1 he
    exact (hvalid m hm).ruleIds_wellFormed _
      ((Spec.map_id_listedRules_perm m.2).mem_iff.1 (List.mem_map.2 ⟨rule, hrule, rfl⟩))
  obtain ⟨plan, hplan⟩ := exists_plan r hwf
  obtain ⟨result, u, hcalls, hrun⟩ := hplan.mergeShares_runIn s hlive
  rw [hrun] at hlive ⊢
  obtain ⟨hchecked, hu⟩ := hplan.checked hserves hvalid hdepth hcalls hs hlive
  refine ⟨?_, hu⟩
  have hchosen : (Spec.concat (members.map Prod.snd)).chosen r.ruleIds
      = members.flatMap fun m => m.2.chosen r.ruleIds := by
    rw [Spec.chosen_concat, List.flatMap_map]
  rw [← hchosen] at hchecked
  have hanswered := hchecked.answered hids
  cases result <;> exact hanswered

end

/-! ## Several clients as one -/

section

variable {members : List (CheckClient σ × Spec)} (hP : ∀ s, P s → s.context.isLive)

include hP

/-- What each client lists is given, one after another. -/
theorem listEach_gives {list : CheckClient σ → Call σ (List α)} {lists : Spec → List α}
    (h : ∀ m ∈ members, (list m.1).Gives P (lists m.2)) :
    (listEach list (members.map Prod.fst)).Gives P ((members.map Prod.snd).map lists) := by
  induction members with
  | nil => exact Call.gives_pure _
  | cons m members ih =>
    have hcheck : (Call.check : Call σ Unit).Gives P () := by
      intro s hs
      refine ⟨s, ?_, hs⟩
      rw [Call.runIn_check, (CallContext.check_eq_ok_iff _).2 (hP s hs)]
      rfl
    have hrest := ih fun n hn => h n (List.mem_cons_of_mem _ hn)
    exact hcheck.bind ((h m List.mem_cons_self).bind (hrest.bind (Call.gives_pure _)))

variable (hserves : ∀ m ∈ members, m.1.Serves P m.2) (hvalid : ∀ m ∈ members, m.2.IsValid)
  (hconcat : (Spec.concat (members.map Prod.snd)).IsValid)

include hserves hvalid hconcat

/-- A check by several clients is answered as one on all their specs. -/
theorem checkAmong_answered (hdepth : (CheckMessage.codec.encode (r.message r.ruleIds)).depth ≤ 127)
    {s : Session σ} (hs : P s)
    (hlive : ((checkAmong (members.map Prod.fst) r).runIn s).2.context.isLive) :
    (Spec.concat (members.map Prod.snd)).Answered r
        ((checkAmong (members.map Prod.fst) r).runIn s).1 ∧
      P ((checkAmong (members.map Prod.fst) r).runIn s).2 := by
  have hvalid' : ∀ spec ∈ members.map Prod.snd, spec.IsValid := List.forall_mem_map.2 hvalid
  obtain ⟨t, hlists, ht⟩ := listEach_gives hP (fun m hm => (hserves m hm).listRules) s hs
  have hperm := Spec.flatten_listedRules_perm hvalid' hconcat
  have hnodup := Spec.nodup_flatten_listedRules hvalid' hconcat
  have hknown : ∀ id, id ∈ ((members.map Prod.snd).map Spec.listedRules).flatten.map Rule.id ↔
      id ∈ (Spec.concat (members.map Prod.snd)).ruleIds := fun id =>
    ((hperm.map Rule.id).trans (Spec.map_id_listedRules_perm _)).mem_iff
  rw [checkAmong_runIn r hlists hnodup] at hlive ⊢
  cases hunlisted : unlisted r ((members.map Prod.snd).map Spec.listedRules) with
  | cons id rest =>
    obtain ⟨hid, hnot⟩ := mem_unlisted.1 (hunlisted ▸ List.mem_cons_self :
      id ∈ unlisted r ((members.map Prod.snd).map Spec.listedRules))
    rw [hknown] at hnot
    exact ⟨.fault (.unknown hid hnot), ht⟩
  | nil =>
    rw [hunlisted] at hlive
    have hids : ∀ id ∈ r.ruleIds, id ∈ (Spec.concat (members.map Prod.snd)).ruleIds := by
      intro id hid
      by_contra hnot
      have hmem := mem_unlisted.2 ⟨hid, mt (hknown id).1 hnot⟩
      rw [hunlisted] at hmem
      cases hmem
    have hzip : (members.map Prod.fst).zip ((members.map Prod.snd).map Spec.listedRules)
        = members.map fun m => (m.1, m.2.listedRules) := by
      rw [List.map_map]
      exact List.zip_map' ..
    simp only [hzip] at hlive ⊢
    exact mergeShares_answered hserves hvalid hdepth hids ht hlive

/-- Clients that serve specs without a hook serve together what these make together. -/
theorem multi_serves (hbefore : ∀ m ∈ members, m.2.before = none) :
    (multi (members.map Prod.fst)).Serves P (Spec.concat (members.map Prod.snd)) := by
  have hvalid' : ∀ spec ∈ members.map Prod.snd, spec.IsValid := List.forall_mem_map.2 hvalid
  match members with
  | [] => exact absurd rfl (Spec.isValid_iff.1 hconcat).1
  | [m] =>
    have hsame : Spec.concat ([m].map Prod.snd) = m.2 :=
      Spec.concat_singleton (hbefore m List.mem_cons_self)
    rw [hsame]
    exact hserves m List.mem_cons_self
  | m :: n :: rest =>
    refine ⟨?_, ?_, fun r s hdepth hs hlive => ?_, ?_⟩
    · refine (listEach_gives hP fun m hm => (hserves m hm).listRules).bind
        (Call.gives_ofResult ?_)
      exact Spec.sortUnique_flatten_listedRules hvalid' hconcat
    · refine (listEach_gives hP fun m hm => (hserves m hm).listCategories).bind
        (Call.gives_ofResult ?_)
      exact Spec.sortUnique_flatten_listedCategories hconcat
    · exact checkAmong_answered hP hserves hvalid hconcat hdepth hs hlive
    · exact multi_respects CallContext.evolves_isChange fun d hd => by
        obtain ⟨m, hm, rfl⟩ := List.mem_map.1 hd
        exact (hserves m hm).evolves

end

end CheckClient

/-! ## Clients of providers in the same program -/

/-- The part at an index of a state that has a part at every index. -/
def Slot.part {β : Type} (i : Nat) : Slot (Nat → β) β :=
  ⟨fun s => s i, fun b s => Function.update s i b⟩

@[simp] theorem Slot.part_put_self {β : Type} (i : Nat) (b : β) (s : Nat → β) :
    (Slot.part i).put b s i = b := Function.update_self ..

@[simp] theorem Slot.part_put_of_ne {β : Type} {i j : Nat} (h : j ≠ i) (b : β) (s : Nat → β) :
    (Slot.part i).put b s j = s j := Function.update_of_ne h ..

namespace Client

variable {locals : List (Provider × Client τ)}

/-- Clients, each with its provider, as one client. Each has a state of its own. -/
def together (locals : List (Provider × Client τ)) : CheckClient (Nat → ClientState τ) :=
  CheckClient.multi (locals.mapIdx fun i l => l.2.checkClient.within (Slot.part i))

/-- A session in which the call goes on, and in which what each client remembers fits the spec of
its provider. -/
structure ReadyAll (locals : List (Provider × Client τ)) (s : Session (Nat → ClientState τ)) : Prop
  where
  live : s.context.isLive
  fits : ∀ (i : Nat) (hi : i < locals.length), (s.state i).cache.Fits locals[i].1.spec

/-- Before anything happened nothing is remembered, and that fits. -/
theorem readyAll_start (locals : List (Provider × Client τ)) (link : Nat → τ) {c : CallContext}
    (hc : c.isLive) : ReadyAll locals ⟨c, fun i => { link := link i }⟩ :=
  ⟨hc, fun _ _ => ListingCache.fits_empty _⟩

/-- Each client with its own state, and the spec of its provider. -/
def members (locals : List (Provider × Client τ)) :
    List (CheckClient (Nat → ClientState τ) × Spec) :=
  locals.mapIdx fun i l => (l.2.checkClient.within (Slot.part i), l.1.spec)

/-- Clients of providers are put together as members of one client. -/
theorem together_eq_multi (locals : List (Provider × Client τ)) :
    together locals = .multi ((members locals).map Prod.fst) :=
  congrArg CheckClient.multi (List.ext_getElem? fun i => by simp [members, Function.comp_def])

/-- The members are paired with the specs of their providers. -/
theorem map_snd_members (locals : List (Provider × Client τ)) :
    (members locals).map Prod.snd = locals.map fun l => l.1.spec :=
  List.ext_getElem? fun i => by simp [members, Function.comp_def]

/-- A member is one of the clients, on its own part of the state. -/
theorem exists_of_mem_members {m : CheckClient (Nat → ClientState τ) × Spec}
    (hm : m ∈ members locals) : ∃ (i : Nat) (hi : i < locals.length),
      m = (locals[i].2.checkClient.within (Slot.part i), locals[i].1.spec) := by
  obtain ⟨i, hi, rfl⟩ := List.mem_mapIdx.1 hm
  exact ⟨i, hi, rfl⟩

/-- Each member has a valid spec. -/
theorem isValid_of_mem_members {m : CheckClient (Nat → ClientState τ) × Spec}
    (hm : m ∈ members locals) : m.2.IsValid := by
  obtain ⟨i, hi, rfl⟩ := exists_of_mem_members hm
  exact locals[i].1.valid

/-- What is left of a session once a client is done with its part of the state. -/
theorem ReadyAll.put {s : Session (Nat → ClientState τ)} (hs : ReadyAll locals s) {i : Nat}
    (hi : i < locals.length) {t : Session (ClientState τ)}
    (ht : ClientState.Ready locals[i].1.spec t) :
    ReadyAll locals ⟨t.context, (Slot.part i).put t.state s.state⟩ := by
  refine ⟨ht.live, fun j hj => ?_⟩
  show ((Slot.part i).put t.state s.state j).cache.Fits locals[j].1.spec
  by_cases hij : j = i
  · subst hij
    rw [Slot.part_put_self]
    exact ht.fits
  · rw [Slot.part_put_of_ne hij]
    exact hs.fits j hj

/-- Clients of providers without a hook serve together what the specs make together. -/
theorem together_serves (hlocals : ∀ l ∈ locals, l.2.IsLocal l.1)
    (hbefore : ∀ l ∈ locals, l.1.spec.before = none)
    (hconcat : (Spec.concat (locals.map fun l => l.1.spec)).IsValid) :
    (together locals).Serves (ReadyAll locals) (Spec.concat (locals.map fun l => l.1.spec)) := by
  rw [← map_snd_members] at hconcat ⊢
  rw [together_eq_multi]
  refine CheckClient.multi_serves (fun s hs => hs.live) (fun m hm => ?_)
    (fun m => isValid_of_mem_members) hconcat fun m hm => ?_
  · obtain ⟨i, hi, rfl⟩ := exists_of_mem_members hm
    have hmem : locals[i] ∈ locals := List.getElem_mem hi
    exact (serves (hlocals _ hmem) (hbefore _ hmem)).within (fun s hs => ⟨hs.live, hs.fits i hi⟩)
      fun s t hs ht => hs.put hi ht
  · obtain ⟨i, hi, rfl⟩ := exists_of_mem_members hm
    exact hbefore _ (List.getElem_mem hi)

/-- Several clients of providers in the same program behave, as one, as one client of a provider of
everything. Both list the same rules and the same categories; and of every request, in calls that
stay live, both make the same response, or neither makes one. The specs have no hook, the code of
all rules looks at files and options only, the message of the request is nested no deeper than
messages may be, and the clients may remember listings or not. -/
theorem together_agrees_concat {p : Provider} {c : Client τ}
    (hlocals : ∀ l ∈ locals, l.2.IsLocal l.1) (hc : c.IsLocal p)
    (hspec : p.spec = Spec.concat (locals.map fun l => l.1.spec))
    (hbefore : ∀ l ∈ locals, l.1.spec.before = none)
    (hinput : ∀ rule ∈ p.spec.rules, rule.handler.InputOnly)
    {s : Session (Nat → ClientState τ)} (hs : ReadyAll locals s)
    {t : Session (ClientState τ)} (ht : ClientState.Ready p.spec t) :
    (∃ rules, ((together locals).listRules.runIn s).1 = .ok rules ∧
      (c.listRules.runIn t).1 = .ok rules) ∧
    (∃ categories, ((together locals).listCategories.runIn s).1 = .ok categories ∧
      (c.listCategories.runIn t).1 = .ok categories) ∧
    ∀ r : Request, (CheckMessage.codec.encode (r.message r.ruleIds)).depth ≤ 127 →
      (((together locals).check r).runIn s).2.context.isLive →
        ((c.check r).runIn t).2.context.isLive →
          ∀ response, (((together locals).check r).runIn s).1 = .ok response ↔
            ((c.check r).runIn t).1 = .ok response := by
  have hbefore' : p.spec.before = none := by
    rw [hspec]
    rfl
  have hsingle := serves hc hbefore'
  have hseveral := together_serves hlocals hbefore (hspec ▸ p.valid)
  rw [← hspec] at hseveral
  refine ⟨?_, ?_, fun r hdepth hlive hlive' response => ?_⟩
  · obtain ⟨u, hrun, -⟩ := hseveral.listRules s hs
    obtain ⟨v, hrun', -⟩ := hsingle.listRules t ht
    exact ⟨p.spec.listedRules, congrArg Prod.fst hrun, congrArg Prod.fst hrun'⟩
  · obtain ⟨u, hrun, -⟩ := hseveral.listCategories s hs
    obtain ⟨v, hrun', -⟩ := hsingle.listCategories t ht
    exact ⟨p.spec.listedCategories, congrArg Prod.fst hrun, congrArg Prod.fst hrun'⟩
  · obtain ⟨hanswered, -⟩ := hseveral.check r s hdepth hs hlive
    obtain ⟨hanswered', -⟩ := hsingle.check r t hdepth ht hlive'
    exact hanswered.eq_ok_iff hinput hanswered' response

/-- The client of a provider without a hook leaves the context alone when all rules do. -/
theorem ofProvider_still {p : Provider} (options : ClientOptions) (hbefore : p.spec.before = none)
    (hcalm : ∀ rule ∈ p.spec.rules, rule.handler.Calm) :
    (ofProvider p options : Client τ).checkClient.Respects Eq :=
  CheckClient.checkClient_respects CallContext.eq_isChange
    (Transport.ofProvider_respects CallContext.eq_isChange (Provider.handle_still hbefore hcalm))

/-- A client of the demonstration rules about names, and one of those about files that remembers its
listings. -/
def demo : List (Provider × Client Unit) :=
  [(Demo.nameProvider, ofProvider Demo.nameProvider),
    (Demo.fileProvider, ofProvider Demo.fileProvider { cache := true })]

/-- `together_agrees_concat` for the demonstration rules in two parts. -/
theorem together_agrees_concat_demo :
    (∃ rules, ((together demo).listRules.runIn ⟨{}, fun _ => { link := () }⟩).1 = .ok rules ∧
      ((ofProvider Demo.provider).listRules.runIn ⟨{}, { link := () }⟩).1 = .ok rules) ∧
    (∃ categories,
      ((together demo).listCategories.runIn ⟨{}, fun _ => { link := () }⟩).1 = .ok categories ∧
      ((ofProvider Demo.provider).listCategories.runIn ⟨{}, { link := () }⟩).1 = .ok categories) ∧
    ∀ response, (((together demo).check Demo.request).runIn ⟨{}, fun _ => { link := () }⟩).1
        = .ok response ↔
      (((ofProvider Demo.provider).check Demo.request).runIn ⟨{}, { link := () }⟩).1
        = .ok response := by
  have hlocals : ∀ l ∈ demo, l.2.IsLocal l.1 := by
    intro l hl
    rcases List.mem_pair.1 hl with rfl | rfl
    · exact ⟨rfl, by decide, by decide⟩
    · exact ⟨rfl, by decide, by decide⟩
  have hbefore : ∀ l ∈ demo, l.1.spec.before = none := by
    intro l hl
    rcases List.mem_pair.1 hl with rfl | rfl
    · rfl
    · rfl
  have hclients : ∀ l ∈ demo, l.2.checkClient.Respects Eq := by
    intro l hl
    rcases List.mem_pair.1 hl with rfl | rfl
    · exact ofProvider_still {} rfl fun rule h =>
        Demo.rules_calm rule (List.mem_append_left Demo.fileSpec.rules h)
    · exact ofProvider_still { cache := true } rfl fun rule h =>
        Demo.rules_calm rule (List.mem_append_right Demo.nameSpec.rules h)
  have hstill : (together demo).Respects Eq := by
    refine CheckClient.multi_respects CallContext.eq_isChange fun d hd => ?_
    obtain ⟨i, hi, rfl⟩ := List.mem_mapIdx.1 hd
    exact (hclients demo[i] (List.getElem_mem hi)).within (Slot.part i)
  have hsingle : (ofProvider Demo.provider : Client Unit).checkClient.Respects Eq :=
    ofProvider_still {} rfl Demo.rules_calm
  have hlocal : (ofProvider Demo.provider : Client Unit).IsLocal Demo.provider :=
    ⟨rfl, by decide, by decide⟩
  have hready : ReadyAll demo ⟨{}, fun _ => { link := () }⟩ :=
    readyAll_start demo (fun _ => ()) (by decide)
  have hready' : ClientState.Ready Demo.provider.spec ⟨{}, { link := () }⟩ :=
    ⟨by decide, ListingCache.fits_empty _⟩
  obtain ⟨hrules, hcategories, hcheck⟩ :=
    together_agrees_concat hlocals hlocal rfl hbefore Demo.rules_inputOnly hready hready'
  refine ⟨hrules, hcategories, hcheck Demo.request (by decide +kernel) ?_ ?_⟩
  · rw [← hstill.check]
    decide
  · show (((ofProvider Demo.provider).checkClient.check Demo.request).runIn _).2.context.isLive
    rw [← hsingle.check]
    decide

end Client

end SchemaCheck
