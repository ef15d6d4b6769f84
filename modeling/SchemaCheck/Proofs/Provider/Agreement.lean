import SchemaCheck.Proofs.Collector.Answers
import SchemaCheck.Proofs.Walk.InputOnly

/-!
# What a provider serves is settled

The hook and the rules of a spec may be settled by the request alone: in whatever live context, they
do the same, and nothing but time happens to the context (`Spec.Settled`). Then what a provider of
the spec answers is settled too (`Provider.handle_agrees`). It does not depend on the context while
the call stays live. Nor does it depend on how the rules are run, except that faults which are found
together may be joined in another order; so two providers of one spec agree on all answers, and on
the codes of all faults (`Agree`).
-/

namespace SchemaCheck

/-! ## Results that agree -/

/-- Whether two results are the same to a caller: the same value, or faults under the same code. If
it is to be exact, then the faults are the same too. -/
inductive Agree {α : Type} (exact : Prop) : Result α → Result α → Prop where
  | ok (a : α) : Agree exact (.ok a) (.ok a)
  | fault {e f : Fault} : e.code = f.code → (exact → e = f) → Agree exact (.error e) (.error f)

namespace Agree

variable {α : Type} {exact : Prop} {x y : Result α}

/-- A result agrees with itself. -/
theorem refl (x : Result α) : Agree exact x x := by
  cases x with
  | ok a => exact .ok a
  | error e => exact .fault rfl fun _ => rfl

/-- Results that agree are the same value, if one of them is a value. -/
theorem eq_ok_iff (h : Agree exact x y) (a : α) : x = .ok a ↔ y = .ok a := by
  cases h with
  | ok a => exact Iff.rfl
  | fault => exact ⟨nofun, nofun⟩

/-- What agrees exactly agrees less exactly too. -/
theorem mono {weaker : Prop} (h : Agree exact x y) (hw : weaker → exact) : Agree weaker x y := by
  cases h with
  | ok a => exact .ok a
  | fault hcode hexact => exact .fault hcode fun h => hexact (hw h)

/-- What agrees goes on to agree, whatever is made of a value. -/
theorem bind {β : Type} (h : Agree exact x y) (next : α → Result β) :
    Agree exact (x >>= next) (y >>= next) := by
  cases h with
  | ok a => exact .refl _
  | fault hcode hexact => exact .fault hcode hexact

/-- What agrees with the same agrees. -/
theorem trans {z : Result α} (h : Agree exact x y) (h' : Agree exact y z) : Agree exact x z := by
  cases h with
  | ok a => exact h'
  | fault hcode hexact =>
    cases h' with
    | fault hcode' hexact' =>
      exact .fault (hcode.trans hcode') fun h => (hexact h).trans (hexact' h)

end Agree

/-! ## Activities that are settled -/

namespace Activity

variable {ω ι σ α : Type}

/-- Whether it is settled beforehand what an activity does: in all live contexts it does the same,
and nothing but time happens to the context. -/
structure Settled (a : Activity ω α) : Prop where
  determined : a.Determined
  keeps : a.Keeps CallContext.Ages

/-- An activity that does not cancel yields something. -/
theorem exists_yields {a : Activity ω α} (h : a.Keeps CallContext.Ages) :
    ∃ items r, a.Yields items r := by
  have hages := run_keeps CallContext.ages_isChange (fun _ (u : Unit) => u) h {} ()
  obtain ⟨items, hy, -⟩ := run_yields (fun _ (u : Unit) => u) a {} () (hages.isLive rfl rfl)
  exact ⟨items, _, hy⟩

/-- Activities that do not cancel yield something each. -/
theorem exists_yieldsAll {as : List (ι × Activity ω α)}
    (h : ∀ a ∈ as, a.2.Keeps CallContext.Ages) : ∃ log rs, YieldsAll as log rs := by
  induction as with
  | nil => exact ⟨[], [], .nil⟩
  | cons e as ih =>
    obtain ⟨tag, a⟩ := e
    obtain ⟨items, r, hy⟩ := exists_yields (h _ List.mem_cons_self)
    obtain ⟨log, rs, hrest⟩ := ih fun a ha => h a (List.mem_cons_of_mem _ ha)
    exact ⟨_, _, .cons hy hrest⟩

/-- What settled activities yield together is settled. -/
theorem YieldsAll.unique {as : List (ι × Activity ω α)} {log log' : List (ι × ω)}
    {rs rs' : List (Result α)} (has : ∀ a ∈ as, a.2.Determined) (h : YieldsAll as log rs)
    (h' : YieldsAll as log' rs') : log = log' ∧ rs = rs' := by
  induction h generalizing log' rs' with
  | nil =>
    cases h'
    exact ⟨rfl, rfl⟩
  | cons hy _ ih =>
    cases h' with
    | cons hy' hrest' =>
      obtain ⟨rfl, rfl⟩ := has _ List.mem_cons_self _ _ _ _ hy hy'
      obtain ⟨rfl, rfl⟩ := ih (fun a ha => has a (List.mem_cons_of_mem _ ha)) hrest'
      exact ⟨rfl, rfl⟩

variable (take : ι → ω → σ → σ)

/-- Activities that run in order, each of which yields something, end as the first that fails, and
if none does, have handed out all that they yield, in order. -/
theorem runInOrder_firstFault {as : List (ι × Activity ω Unit)}
    (has : ∀ a ∈ as, a.2.Keeps CallContext.Ages) (c : CallContext) (s : σ)
    (h : (runInOrder take as c s).2.1.isLive) :
    ∃ log rs, YieldsAll as log rs ∧ (runInOrder take as c s).1 = firstFault rs ∧
      (firstFault rs = .ok () → (runInOrder take as c s).2.2 = takeAll take log s) := by
  induction as generalizing c s with
  | nil => exact ⟨[], [], .nil, rfl, fun _ => rfl⟩
  | cons e as ih =>
    obtain ⟨tag, a⟩ := e
    have hrest : ∀ a ∈ as, a.2.Keeps CallContext.Ages := fun a ha =>
      has a (List.mem_cons_of_mem _ ha)
    have hyields := run_yields (take tag) a c s
    rw [runInOrder] at h ⊢
    split at h
    · next c' s' heq =>
      simp only [heq] at hyields ⊢
      have hlive : c'.isLive := (runInOrder_evolves take as c' s').isLive h
      obtain ⟨items, hy, rfl⟩ := hyields hlive
      obtain ⟨log, rs, hall, hresult, hstate⟩ := ih hrest c' _ h
      refine ⟨_, _, .cons hy hall, hresult, fun hok => ?_⟩
      rw [takeAll_append, takeAll_map]
      exact hstate hok
    · next e c' s' heq =>
      simp only [heq] at hyields ⊢
      obtain ⟨items, hy, -⟩ := hyields h
      obtain ⟨log, rs, hall⟩ := exists_yieldsAll hrest
      refine ⟨_, _, .cons hy hall, rfl, fun hok => ?_⟩
      cases hok

/-- Activities that run side by side end as the first that fails, and have handed out all that they
yield, in some order. -/
theorem runSideBySide_firstFault (schedule : List Nat) (as : List (ι × Activity ω Unit))
    (c : CallContext) (s : σ) (h : (runSideBySide take schedule as c s).2.1.isLive) :
    ∃ log rs taken, YieldsAll as log rs ∧ taken.Perm log ∧
      (runSideBySide take schedule as c s).1 = firstFault rs ∧
      (runSideBySide take schedule as c s).2.2 = takeAll take taken s := by
  obtain ⟨rest, hrest, hs⟩ := runEach_yields take _ _ _ h
  have hlive := (runEach_evolves take (runTurns take schedule as c s).1 _ _).isLive h
  obtain ⟨first, hfirst, hall⟩ := runTurns_yields take schedule as c s hlive
  obtain ⟨log, hlog, hperm⟩ := hall _ _ hrest
  refine ⟨log, _, first ++ rest, hlog, hperm.symm, rfl, ?_⟩
  rw [takeAll_append, ← hfirst]
  exact hs

end Activity

/-- Whether the hook and the rules of a spec are settled by the request. -/
structure Spec.Settled (s : Spec) : Prop where
  rules : ∀ rule ∈ s.rules, ∀ r, (rule.handler rule.id r).Settled
  before : ∀ hook, s.before = some hook → ∀ r, (hook r).Settled

/-! ## Collectors -/

namespace Collector

variable {r : Request} {log log' : List (String × Draft)}

/-- Joined faults have the same code in whatever order they are joined. -/
theorem code_of_join {es fs : List Fault} (h : es.Perm fs) {e f : Fault}
    (he : Fault.join es = some e) (hf : Fault.join fs = some f) : e.code = f.code := by
  rcases join_eq_some he with rfl | ⟨hlength, rfl⟩ <;>
    rcases join_eq_some hf with rfl | ⟨hlength', rfl⟩
  · rw [List.singleton_perm_singleton.1 h]
  · rw [← h.length_eq, List.length_singleton] at hlength'
    omega
  · rw [h.length_eq, List.length_singleton] at hlength
    omega
  · rfl

/-- Collectors that are handed the same drafts agree, in whatever order they are handed them. -/
theorem finish_agrees {exact : Prop} (h : log.Perm log') (hexact : exact → log = log') :
    Agree exact ((ofRequest r).addAll log).finish.1 ((ofRequest r).addAll log').finish.1 := by
  cases hfinish : ((ofRequest r).addAll log).finish.1 with
  | ok response =>
    have hall := (finish_addAll_eq_ok_iff.1 hfinish).1
    have hfinish' : ((ofRequest r).addAll log').finish.1 = .ok _ :=
      finish_addAll_eq_ok_iff.2 ⟨fun e he => hall e (h.mem_iff.2 he), rfl⟩
    have hreply : response.reply = (Response.ofFindings ((ofRequest r).accepted log')).reply := by
      unfold Response.reply
      rw [entries_of_finish hfinish, entries_of_finish hfinish',
        FindingEntry.sort_eq_of_perm (h.map _)]
    rw [hfinish', Response.eq_of_reply_eq (isOf_of_finish hfinish) (isOf_of_finish hfinish') hreply]
    exact .ok _
  | error e =>
    cases hfinish' : ((ofRequest r).addAll log').finish.1 with
    | ok response =>
      have hall := (finish_addAll_eq_ok_iff.1 hfinish').1
      have hok := (finish_addAll_eq_ok_iff (r := r)).2 ⟨fun e he => hall e (h.mem_iff.1 he), rfl⟩
      cases hfinish.symm.trans hok
    | error f =>
      refine .fault (code_of_join (h.filterMap _) (join_of_finish hfinish)
        (join_of_finish hfinish')) fun hx => ?_
      rw [hexact hx, hfinish'] at hfinish
      exact (Except.error.inj hfinish).symm

end Collector

/-! ## Computations that agree -/

namespace Served

variable {α β : Type} {exact : Prop}

/-- Whether two computations in calls that stay live agree, whatever their contexts. -/
def Agrees (exact : Prop) (act act' : Served α) : Prop :=
  ∀ c c' : CallContext, (act.run c).2.isLive → (act'.run c').2.isLive →
    Agree exact (act.run c).1 (act'.run c').1

/-- Two computations that agree and let their contexts evolve, so that what comes before them is
live if they are. -/
structure Alike (exact : Prop) (act act' : Served α) : Prop where
  evolves : act.Respects CallContext.Evolves
  evolves' : act'.Respects CallContext.Evolves
  agrees : Agrees exact act act'

/-- To serve one value twice is alike. -/
theorem alike_pure (a : α) : Alike exact (pure a) (pure a) :=
  ⟨respects_pure CallContext.evolves_isChange a, respects_pure CallContext.evolves_isChange a,
    fun _ _ _ _ => .ok a⟩

/-- To serve one result twice is alike. -/
theorem alike_ofResult (r : Result α) : Alike exact (ofResult r) (ofResult r) :=
  ⟨respects_ofResult CallContext.evolves_isChange r,
    respects_ofResult CallContext.evolves_isChange r,
    fun _ _ _ _ => .refl r⟩

/-- Both checks pass, since both calls are live. -/
theorem alike_check : Alike exact check check where
  evolves := respects_check CallContext.evolves_isChange
  evolves' := respects_check CallContext.evolves_isChange
  agrees c c' hc hc' := by
    rw [run_check] at hc hc' ⊢
    rw [run_check, (CallContext.check_eq_ok_iff c).2 hc, (CallContext.check_eq_ok_iff c').2 hc']
    exact .ok ()

/-- Alike computations before alike ones make alike computations: the second ones are served the
same value, or neither is served. -/
theorem Alike.bind {act act' : Served α} {next next' : α → Served β} (h : Alike exact act act')
    (hn : ∀ a, Alike exact (next a) (next' a)) : Alike exact (act >>= next) (act' >>= next') where
  evolves := h.evolves.bind CallContext.evolves_isChange fun a => (hn a).evolves
  evolves' := h.evolves'.bind CallContext.evolves_isChange fun a => (hn a).evolves'
  agrees c c' hlive hlive' := by
    have hrun := h.agrees c c'
    rw [run_bind] at hlive hlive' ⊢
    rw [run_bind]
    generalize act.run c = run at hrun hlive ⊢
    generalize act'.run c' = run' at hrun hlive' ⊢
    obtain ⟨result, d⟩ := run
    obtain ⟨result', d'⟩ := run'
    have hd : d.isLive := by
      cases result with
      | ok a => exact ((hn a).evolves d).isLive hlive
      | error e => exact hlive
    have hd' : d'.isLive := by
      cases result' with
      | ok a => exact ((hn a).evolves' d').isLive hlive'
      | error e => exact hlive'
    cases hrun hd hd' with
    | ok a => exact (hn a).agrees d d' hlive hlive'
    | fault hcode hexact => exact .fault hcode hexact

end Served

/-! ## Providers that agree -/

namespace Provider

open Served

variable {p q : Provider}

/-- What comes of rules that are settled: the first fault, or what the collector makes of all that
they hand in, which is in order when they run in order. -/
theorem runRules_settled (hs : p.spec.Settled) {r : Request} {rules : List RuleSpec}
    (hrules : ∀ rule ∈ rules, rule ∈ p.spec.rules) (c : CallContext)
    (hlive : ((p.runRules r rules).run c).2.isLive) :
    ∃ log rs taken, Activity.YieldsAll (rules.map (activity r)) log rs ∧ taken.Perm log ∧
      (p.execution = .inOrder → taken = log) ∧
      ((p.runRules r rules).run c).1 = (do
        Activity.firstFault rs
        ((Collector.ofRequest r).addAll taken).finish.1) := by
  have hkeeps : ∀ a ∈ rules.map (activity r), a.2.Keeps CallContext.Ages := by
    intro a ha
    obtain ⟨rule, hrule, rfl⟩ := List.mem_map.1 ha
    exact Activity.keeps_check.bind fun _ => (hs.rules rule (hrules rule hrule) r).keeps
  have hconclude : ∀ (taken : List (String × Draft)) {rs : List (Result Unit)}
      {run : Result Unit × CallContext × Collector}, run.1 = Activity.firstFault rs →
      (Activity.firstFault rs = .ok () → run.2.2 = (Collector.ofRequest r).addAll taken) →
      (conclude run).1 = (do
        Activity.firstFault rs
        ((Collector.ofRequest r).addAll taken).finish.1) := by
    rintro taken rs ⟨result, d, collector⟩ rfl hstate
    cases hfault : Activity.firstFault rs with
    | error e => rfl
    | ok u =>
      have hcollector : collector = (Collector.ofRequest r).addAll taken := hstate hfault
      rw [hcollector]
      rfl
  rw [runRules_run] at hlive ⊢
  rw [conclude_context] at hlive
  unfold runAll at hlive ⊢
  cases hexec : p.execution with
  | inOrder =>
    rw [hexec] at hlive
    obtain ⟨log, rs, hall, hresult, hstate⟩ :=
      Activity.runInOrder_firstFault collect hkeeps c _ hlive
    exact ⟨log, rs, log, hall, .refl log, fun _ => rfl, hconclude log hresult hstate⟩
  | sideBySide schedule =>
    rw [hexec] at hlive
    obtain ⟨log, rs, taken, hall, hperm, hresult, hstate⟩ :=
      Activity.runSideBySide_firstFault collect schedule _ c _ hlive
    exact ⟨log, rs, taken, hall, hperm, fun h => (nomatch h),
      hconclude taken hresult fun _ => hstate⟩

section

variable (hs : p.spec.Settled) (hq : q.spec = p.spec)

include hs hq

/-- Providers of one spec agree on what rules find, however these are run. -/
theorem runRules_alike (r : Request) {rules : List RuleSpec}
    (hrules : ∀ rule ∈ rules, rule ∈ p.spec.rules) :
    Alike (p.execution = .inOrder ∧ q.execution = .inOrder) (p.runRules r rules)
      (q.runRules r rules) where
  evolves := p.runRules_evolves r rules
  evolves' := q.runRules_evolves r rules
  agrees c c' hlive hlive' := by
    obtain ⟨log, rs, taken, hall, hperm, hexact, hrun⟩ := runRules_settled hs hrules c hlive
    obtain ⟨log', rs', taken', hall', hperm', hexact', hrun'⟩ :=
      runRules_settled (hq ▸ hs) (hq ▸ hrules) c' hlive'
    have hdetermined : ∀ a ∈ rules.map (activity r), a.2.Determined := by
      intro a ha
      obtain ⟨rule, hrule, rfl⟩ := List.mem_map.1 ha
      exact Activity.determined_check_bind (hs.rules rule (hrules rule hrule) r).determined
    obtain ⟨rfl, rfl⟩ := hall.unique hdetermined hall'
    rw [hrun, hrun']
    cases Activity.firstFault rs with
    | error e => exact .refl _
    | ok u =>
      refine Collector.finish_agrees (hperm.trans hperm'.symm) fun h => ?_
      rw [hexact h.1, hexact' h.2]

/-- Providers of one spec agree on what is made of a request before the rules run. -/
theorem prepare_alike {exact : Prop} (r : Request) : Alike exact (p.prepare r) (q.prepare r) where
  evolves := p.prepare_evolves r
  evolves' := q.prepare_evolves r
  agrees c c' hlive hlive' := by
    unfold prepare at hlive hlive' ⊢
    rw [hq] at hlive' ⊢
    cases hbefore : p.spec.before with
    | none => exact .ok r
    | some hook =>
      rw [hbefore] at hlive hlive'
      obtain ⟨items, hy, -⟩ := Activity.run_yields (fun _ u => u) (hook r) c () hlive
      obtain ⟨items', hy', -⟩ := Activity.run_yields (fun _ u => u) (hook r) c' () hlive'
      have hsame := ((hs.before hook hbefore r).determined _ _ _ _ hy hy').2
      show Agree exact ((hook r).run _ c ()).1 ((hook r).run _ c' ()).1
      rw [hsame]
      exact .refl _

/-- Providers of one spec agree on checks. -/
theorem check_alike (m : CheckMessage) :
    Alike (p.execution = .inOrder ∧ q.execution = .inOrder) (p.check m) (q.check m) := by
  have hselect : ∀ ids, q.select ids = p.select ids := fun ids => by
    rw [select_eq, select_eq, hq]
  refine alike_check.bind fun _ => (alike_ofResult _).bind fun r => ?_
  rw [hselect]
  cases hrules : p.select r.ruleIds with
  | error e => exact alike_ofResult (.error e)
  | ok rules =>
    exact (prepare_alike hs hq r).bind fun r =>
      (runRules_alike hs hq r (mem_of_select hrules)).bind fun _ => alike_pure _

omit hs in
/-- Providers of one spec agree on listings. -/
theorem listings_alike {exact : Prop} (m : PageMessage) :
    Alike exact (p.listRules m) (q.listRules m) ∧
      Alike exact (p.listCategories m) (q.listCategories m) := by
  have hrules : q.ruleListing = p.ruleListing := by rw [ruleListing, ruleListing, hq]
  have hcategories : q.categoryListing = p.categoryListing := by
    rw [categoryListing, categoryListing, hq]
  rw [listRules, listRules, listCategories, listCategories, hrules, hcategories]
  exact ⟨alike_check.bind fun _ => alike_ofResult _, alike_check.bind fun _ => alike_ofResult _⟩

/-- Providers of one spec agree on whatever they are asked, in all live contexts: on all answers,
and on the codes of faults. They also agree on the faults if both run rules in order. -/
theorem handle_agrees (method : Method) (request : Bytes) :
    Agrees (p.execution = .inOrder ∧ q.execution = .inOrder) (p.handle method request)
      (q.handle method request) := by
  refine Alike.agrees ?_
  cases method with
  | check =>
    exact (alike_ofResult _).bind fun m => (check_alike hs hq m).bind fun _ => alike_pure _
  | listRules =>
    exact (alike_ofResult _).bind fun m => (listings_alike hq m).1.bind fun _ => alike_pure _
  | listCategories =>
    exact (alike_ofResult _).bind fun m => (listings_alike hq m).2.bind fun _ => alike_pure _

end

/-- While a provider of a settled spec serves, nothing but time happens to the context. -/
theorem handle_ages (hs : p.spec.Settled) (method : Method) (request : Bytes) :
    (p.handle method request).Respects CallContext.Ages := by
  refine handle_respects CallContext.ages_isChange (fun r => ?_) (fun r rules hrules => ?_) _ _
  · unfold prepare
    cases hbefore : p.spec.before with
    | none => exact respects_pure CallContext.ages_isChange r
    | some hook =>
      exact fun c => Activity.run_keeps CallContext.ages_isChange _
        (hs.before hook hbefore r).keeps c ()
  · exact p.runRules_respects CallContext.ages_isChange r fun rule hrule =>
      (hs.rules rule (hrules rule hrule) r).keeps

end Provider

end SchemaCheck
