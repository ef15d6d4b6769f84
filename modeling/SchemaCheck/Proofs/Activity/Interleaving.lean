import SchemaCheck.Proofs.Activity.Calm
import SchemaCheck.Proofs.Activity.Live
import SchemaCheck.Proofs.Activity.Runs

/-!
# What activities hand out side by side

Activities that leave their context as it is do side by side what each does by itself
(`Activity.RunsEach`). Only the order in which their items are handed out is open: it is an
interleaving of the items of all, whatever the schedule (`RunsEach.runSideBySide`), and each
interleaving is that of some schedule (`RunsEach.exists_schedule`). There is but one just when
members of different lists cannot be told apart (`interleaves_eq_flatten_iff`).
-/

namespace SchemaCheck

/-! ## Interleavings -/

section

variable {β γ : Type}

/-- The third list has the members of the first two, those of each in their order. -/
inductive Weaves : List β → List β → List β → Prop where
  | nil : Weaves [] [] []
  | left {b : β} {l u w : List β} : Weaves l u w → Weaves (b :: l) u (b :: w)
  | right {b : β} {l u w : List β} : Weaves l u w → Weaves l (b :: u) (b :: w)

/-- The log has the members of all lists, those of each in their order. -/
inductive Interleaves : List (List β) → List β → Prop where
  | nil : Interleaves [] []
  | cons {l rest log : List β} {lists : List (List β)} :
      Weaves l rest log → Interleaves lists rest → Interleaves (l :: lists) log

namespace Weaves

/-- The left list may go first. -/
theorem append_left (first : List β) {l u w : List β} (h : Weaves l u w) :
    Weaves (first ++ l) u (first ++ w) := by
  induction first with
  | nil => exact h
  | cons b first ih => exact .left ih

/-- The right list may go first. -/
theorem append_right (first : List β) {l u w : List β} (h : Weaves l u w) :
    Weaves l (first ++ u) (first ++ w) := by
  induction first with
  | nil => exact h
  | cons b first ih => exact .right ih

/-- One list and then the other. -/
theorem append (l u : List β) : Weaves l u (l ++ u) := by
  simpa using (Weaves.nil.append_right u).append_left l

/-- Nothing is lost and nothing added where two lists are woven. -/
theorem perm {l u w : List β} (h : Weaves l u w) : w.Perm (l ++ u) := by
  induction h with
  | nil => exact .refl _
  | left _ ih => exact ih.cons _
  | right _ ih => exact (ih.cons _).trans List.perm_middle.symm

/-- What is made of the members of two lists is woven as they are. -/
theorem filterMap (f : β → Option γ) {l u w : List β} (h : Weaves l u w) :
    Weaves (l.filterMap f) (u.filterMap f) (w.filterMap f) := by
  induction h with
  | nil => exact .nil
  | @left b _ _ _ _ ih =>
    cases hb : f b with
    | none => simpa [hb] using ih
    | some b' => simpa [hb] using ih.left
  | @right b _ _ _ _ ih =>
    cases hb : f b with
    | none => simpa [hb] using ih
    | some b' => simpa [hb] using ih.right

/-- What comes out of lists in some order comes out of them when they are woven in some order. -/
theorem of_filterMap {f : β → Option γ} {l u : List β} {w : List γ}
    (h : Weaves (l.filterMap f) (u.filterMap f) w) : ∃ v, Weaves l u v ∧ v.filterMap f = w := by
  generalize hl : l.filterMap f = l' at h
  generalize hu : u.filterMap f = u' at h
  induction h generalizing l u with
  | nil =>
    refine ⟨l ++ u, append l u, ?_⟩
    rw [List.filterMap_append, hl, hu]
    rfl
  | left _ ih =>
    obtain ⟨first, b, rest, rfl, hfirst, hb, hrest⟩ := List.filterMap_eq_cons_iff.1 hl
    obtain ⟨v, hv, rfl⟩ := ih hrest hu
    refine ⟨first ++ b :: v, (left hv).append_left first, ?_⟩
    simp [List.filterMap_eq_nil_iff.2 hfirst, hb]
  | right _ ih =>
    obtain ⟨first, b, rest, rfl, hfirst, hb, hrest⟩ := List.filterMap_eq_cons_iff.1 hu
    obtain ⟨v, hv, rfl⟩ := ih hl hrest
    refine ⟨first ++ b :: v, (right hv).append_right first, ?_⟩
    simp [List.filterMap_eq_nil_iff.2 hfirst, hb]

/-- Lists whose members are all the same weave into one list only. -/
theorem eq_append {l u w : List β} (h : Weaves l u w) (hsame : ∀ b ∈ l, ∀ b' ∈ u, b = b') :
    w = l ++ u := by
  induction h with
  | nil => rfl
  | left _ ih =>
    rw [ih fun b hb => hsame b (List.mem_cons_of_mem _ hb)]
    rfl
  | @right b l u _ _ ih =>
    have hl : l = List.replicate l.length b :=
      List.eq_replicate_of_mem fun a ha => hsame a ha b List.mem_cons_self
    rw [ih fun a ha b hb => hsame a ha b (List.mem_cons_of_mem _ hb), hl]
    simp [← List.cons_append, ← List.replicate_succ, List.replicate_succ']

end Weaves

namespace Interleaves

/-- The lists one after another. -/
theorem flatten (lists : List (List β)) : Interleaves lists lists.flatten := by
  induction lists with
  | nil => exact .nil
  | cons l lists ih => exact .cons (.append l lists.flatten) ih

/-- Nothing is lost and nothing added where lists are interleaved. -/
theorem perm {lists : List (List β)} {log : List β} (h : Interleaves lists log) :
    log.Perm lists.flatten := by
  induction h with
  | nil => exact .refl _
  | cons hw _ ih => exact hw.perm.trans (ih.append_left _)

/-- What is made of the members of lists is interleaved as they are. -/
theorem filterMap (f : β → Option γ) {lists : List (List β)} {log : List β}
    (h : Interleaves lists log) :
    Interleaves (lists.map fun l => l.filterMap f) (log.filterMap f) := by
  induction h with
  | nil => exact .nil
  | cons hw _ ih => exact .cons (hw.filterMap f) ih

/-- An interleaving of what is made of the members comes from one of the members. -/
theorem of_filterMap {f : β → Option γ} {lists : List (List β)} {log : List γ}
    (h : Interleaves (lists.map fun l => l.filterMap f) log) :
    ∃ log', Interleaves lists log' ∧ log'.filterMap f = log := by
  induction lists generalizing log with
  | nil =>
    cases h
    exact ⟨[], .nil, rfl⟩
  | cons l lists ih =>
    cases h with
    | cons hw hrest =>
      obtain ⟨rest, hinter, rfl⟩ := ih hrest
      obtain ⟨v, hv, rfl⟩ := hw.of_filterMap
      exact ⟨v, .cons hv hinter, rfl⟩

/-- The first member of a log is the first of one of the lists, and what is left of the log
interleaves what is left of the lists. -/
theorem exists_first {lists : List (List β)} {b : β} {log : List β}
    (h : Interleaves lists (b :: log)) :
    ∃ i l, lists[i]? = some (b :: l) ∧ Interleaves (lists.set i l) log := by
  induction lists generalizing log with
  | nil => cases h
  | cons l lists ih =>
    cases h with
    | cons hw hrest =>
      cases hw with
      | left hw => exact ⟨0, _, rfl, .cons hw hrest⟩
      | right hw =>
        obtain ⟨i, l', hi, hinter⟩ := ih hrest
        exact ⟨i + 1, l', hi, .cons hw hinter⟩

/-- What comes first in one of the lists may come first in the log. -/
theorem of_set {lists : List (List β)} {i : Nat} {first l log : List β}
    (hi : lists[i]? = some (first ++ l)) (h : Interleaves (lists.set i l) log) :
    Interleaves lists (first ++ log) := by
  induction lists generalizing i log with
  | nil => cases hi
  | cons l' lists ih =>
    cases i with
    | zero =>
      obtain rfl : l' = first ++ l := Option.some.inj hi
      cases h with
      | cons hw hrest => exact .cons (hw.append_left first) hrest
    | succ i =>
      cases h with
      | cons hw hrest => exact .cons (hw.append_right first) (ih hi hrest)

/-- Only empty lists interleave to an empty log. -/
theorem eq_nil {lists : List (List β)} (h : Interleaves lists []) : lists.flatten = [] :=
  h.perm.nil_eq.symm

end Interleaves

/-- Lists interleave in one way only just when members of different lists are the same. -/
theorem interleaves_eq_flatten_iff {lists : List (List β)} :
    (∀ log, Interleaves lists log → log = lists.flatten) ↔
      lists.Pairwise fun l l' => ∀ b ∈ l, ∀ b' ∈ l', b = b' := by
  induction lists with
  | nil =>
    refine ⟨fun _ => .nil, fun _ log h => ?_⟩
    cases h
    rfl
  | cons l lists ih =>
    rw [List.pairwise_cons, ← ih]
    constructor
    · intro h
      refine ⟨fun l' hl' b hb b' hb' => ?_, fun log hlog => ?_⟩
      · -- both orders of the two members are orders of all
        obtain ⟨s, t, rfl⟩ := List.append_of_mem hb
        obtain ⟨u, v, hflatten⟩ := List.append_of_mem (List.mem_flatten_of_mem hl' hb')
        have hinter := Interleaves.flatten lists
        rw [hflatten] at hinter
        have hrest : Weaves t v (t ++ v) := .append t v
        have hfirst := h _ (.cons ((hrest.right.left.append_right u).append_left s) hinter)
        have hsecond := h _ (.cons ((hrest.left.right.append_right u).append_left s) hinter)
        have hsame := hfirst.trans hsecond.symm
        simp only [List.append_cancel_left_eq, List.cons.injEq] at hsame
        exact hsame.1
      · exact List.append_cancel_left (h (l ++ log) (.cons (.append l log) hlog))
    · rintro ⟨hsame, hrest⟩ log (_ | ⟨hw, hinter⟩)
      obtain rfl := hrest _ hinter
      refine hw.eq_append fun b hb b' hb' => ?_
      obtain ⟨l', hl', hb'⟩ := List.mem_flatten.1 hb'
      exact hsame l' hl' b hb b' hb'

end

namespace CallContext

/-- Contexts that evolve into each other are the same. -/
theorem Evolves.antisymm {c d : CallContext} (h : c.Evolves d) (k : d.Evolves c) : c = d := by
  obtain ⟨cancelled, deadline, now⟩ := c
  obtain ⟨cancelled', deadline', now'⟩ := d
  have hdeadline := k.deadline
  have hnow := Nat.le_antisymm h.now k.now
  have hcancelled := Bool.eq_iff_iff.2 ⟨h.cancelled, k.cancelled⟩
  simp only at hdeadline hnow hcancelled
  rw [hdeadline, hnow, hcancelled]

end CallContext

/-! ## Activities in a context that they leave as it is -/

namespace Activity

variable {ω ι σ α : Type}

/-- A calm activity leaves its context as it is. -/
theorem Calm.exists_runs {a : Activity ω α} (h : a.Calm) (c : CallContext) :
    ∃ items r, Runs a c items r c := by
  obtain ⟨items, hruns, -⟩ := run_runs (fun _ u => u) a c ()
  have hc : c = (a.run (fun _ u => u) c ()).2.1 := run_keeps CallContext.eq_isChange _ h.keeps c ()
  rw [← hc] at hruns
  exact ⟨items, _, hruns⟩

/-- A step of an activity that leaves its context as it is does so too, and takes the first of the
items. -/
theorem Runs.step {a : Activity ω α} {c : CallContext} {items : List ω} {r : Result α}
    (h : Runs a c items r c) (take : ω → σ → σ) (s : σ) :
    (a.step take c s).2.1 = c ∧
      ∃ rest, items = a.stepItems ++ rest ∧ Runs (a.step take c s).1 c rest r c := by
  cases h with
  | done => exact ⟨rfl, [], rfl, .done r c⟩
  | emit h => exact ⟨rfl, _, rfl, h⟩
  | @cancel next _ _ _ _ h =>
    have hc : c.cancel = c := h.evolves.antisymm (CallContext.evolves_cancel c)
    refine ⟨hc, items, rfl, ?_⟩
    rw [hc] at h
    exact h
  | @elapse t next _ _ _ _ h =>
    have hc : c.elapse t = c := h.evolves.antisymm (CallContext.evolves_elapse c t)
    refine ⟨hc, items, rfl, ?_⟩
    rw [hc] at h
    exact h
  | observe h => exact ⟨rfl, items, rfl, h⟩

/-- In a context that it leaves as it is, each activity hands out its items, which get its tag, and
ends with its result. -/
inductive RunsEach (c : CallContext) :
    List (ι × Activity ω α) → List (List (ι × ω)) → List (Result α) → Prop where
  | nil : RunsEach c [] [] []
  | cons {tag : ι} {a : Activity ω α} {as : List (ι × Activity ω α)} {items : List ω}
      {logs : List (List (ι × ω))} {r : Result α} {rs : List (Result α)} :
      Runs a c items r c → RunsEach c as logs rs →
        RunsEach c ((tag, a) :: as) (items.map (fun item => (tag, item)) :: logs) (r :: rs)

/-- Calm activities hand out something each and end, all in the context that they find. -/
theorem exists_runsEach {as : List (ι × Activity ω α)} (h : ∀ a ∈ as, a.2.Calm) (c : CallContext) :
    ∃ logs rs, RunsEach c as logs rs := by
  induction as with
  | nil => exact ⟨[], [], .nil⟩
  | cons e as ih =>
    obtain ⟨items, r, hruns⟩ := (h e List.mem_cons_self).exists_runs c
    obtain ⟨logs, rs, hrest⟩ := ih fun a ha => h a (List.mem_cons_of_mem _ ha)
    exact ⟨_, _, .cons hruns hrest⟩

/-- The turn of an activity that is there is a step of it. -/
theorem runTurns_cons {as : List (ι × Activity ω α)} {turn : Nat} {tag : ι} {a : Activity ω α}
    (take : ι → ω → σ → σ) (hturn : as[turn]? = some (tag, a)) (turns : List Nat) (c : CallContext)
    (s : σ) : runTurns take (turn :: turns) as c s =
      let (a, c, s) := a.step (take tag) c s
      runTurns take turns (as.set turn (tag, a)) c s := by
  rw [runTurns, hturn]

/-- After some turns come those that are left, with what these find. -/
theorem runTurns_append (take : ι → ω → σ → σ) (turns turns' : List Nat)
    (as : List (ι × Activity ω α)) (c : CallContext) (s : σ) :
    runTurns take (turns ++ turns') as c s =
      let (as, c, s) := runTurns take turns as c s
      runTurns take turns' as c s := by
  induction turns generalizing as c s with
  | nil => rfl
  | cons turn turns ih =>
    rw [List.cons_append, runTurns, runTurns]
    split
    · exact ih as c s
    · exact ih _ _ _

/-- By some turns of its own an activity with the given number hands out one item and nothing else;
what is left of it hands out the rest. -/
def Gets (take : ι → ω → σ → σ) (c : CallContext) (s : σ) (i : Nat) (tag : ι)
    (as : List (ι × Activity ω α)) (item : ω) (items : List ω) (r : Result α) : Prop :=
  ∃ turns next, runTurns take turns as c s = (as.set i (tag, next), c, take tag item s) ∧
    Runs next c items r c

/-- A turn in which an activity hands out nothing may come first. -/
theorem Runs.gets_of_step {a : Activity ω α} {c : CallContext} {item : ω} {items : List ω}
    {r : Result α} {take : ι → ω → σ → σ} {s : σ} {i : Nat} {tag : ι}
    {as : List (ι × Activity ω α)} (h : Runs a c (item :: items) r c) (hnone : a.stepItems = [])
    (hi : as[i]? = some (tag, a))
    (hnext : ∀ {as : List (ι × Activity ω α)}, as[i]? = some (tag, (a.step (take tag) c s).1) →
      Runs (a.step (take tag) c s).1 c (item :: items) r c →
      Gets take c s i tag as item items r) :
    Gets take c s i tag as item items r := by
  obtain ⟨hc, rest, hrest, hruns⟩ := h.step (take tag) s
  obtain rfl : item :: items = rest := by rwa [hnone] at hrest
  have hlt : i < as.length := (List.getElem?_eq_some_iff.1 hi).1
  obtain ⟨turns, next, hrun, hleft⟩ := hnext (List.getElem?_set_self hlt) hruns
  have hstate : (a.step (take tag) c s).2.2 = s := by
    rw [step_state, hnone]
    rfl
  refine ⟨i :: turns, next, ?_, hleft⟩
  rw [runTurns_cons take hi]
  simp only [hc, hstate, hrun, List.set_set]

/-- An activity that hands out something gets to its first item by turns of its own. -/
theorem Runs.gets {a : Activity ω α} {c : CallContext} {item : ω} {items : List ω} {r : Result α}
    (h : Runs a c (item :: items) r c) (take : ι → ω → σ → σ) (s : σ) {i : Nat} {tag : ι}
    {as : List (ι × Activity ω α)} (hi : as[i]? = some (tag, a)) :
    Gets take c s i tag as item items r := by
  induction a generalizing as with
  | done result => cases h
  | emit first next =>
    cases h with
    | emit h =>
      refine ⟨[i], next, ?_, h⟩
      rw [runTurns_cons take hi]
      rfl
  | cancel next ih => exact h.gets_of_step rfl hi fun hi h => ih h hi
  | elapse t next ih => exact h.gets_of_step rfl hi fun hi h => ih h hi
  | observe next ih => exact h.gets_of_step rfl hi fun hi h => ih c h hi

namespace RunsEach

variable {c : CallContext} {as : List (ι × Activity ω α)} {logs : List (List (ι × ω))}
  {rs : List (Result α)} (take : ι → ω → σ → σ)

/-- There is one list of items for each activity. -/
theorem length_eq (h : RunsEach c as logs rs) : as.length = logs.length := by
  induction h with
  | nil => rfl
  | cons _ _ ih => simp [ih]

/-- What is there of one of the activities, and what there is of all when something else that ends
the same takes its place. -/
theorem exists_runs (h : RunsEach c as logs rs) {i : Nat} {tag : ι} {a : Activity ω α}
    (hi : as[i]? = some (tag, a)) : ∃ items r, Runs a c items r c ∧
      logs[i]? = some (items.map fun item => (tag, item)) ∧
      ∀ next rest, Runs next c rest r c →
        RunsEach c (as.set i (tag, next)) (logs.set i (rest.map fun item => (tag, item))) rs := by
  induction h generalizing i with
  | nil => cases hi
  | @cons tag' a' as items logs r rs hruns hrest ih =>
    cases i with
    | zero =>
      obtain ⟨rfl, rfl⟩ : tag' = tag ∧ a' = a := by simpa using hi
      exact ⟨items, r, hruns, rfl, fun next rest hnext => .cons hnext hrest⟩
    | succ i =>
      obtain ⟨items', r', hruns', hlog, hset⟩ := ih hi
      exact ⟨items', r', hruns', hlog, fun next rest hnext => .cons hruns (hset next rest hnext)⟩

/-- Those that run one after another hand out all items, those of one after those of another. -/
theorem runEach (h : RunsEach c as logs rs) (s : σ) :
    Activity.runEach take as c s = (rs, c, takeAll take logs.flatten s) := by
  induction h generalizing s with
  | nil => rfl
  | @cons tag a as items logs r rs hruns _ ih =>
    simp only [Activity.runEach, hruns.run_eq, ih, List.flatten_cons, takeAll_append, takeAll_map]

/-- Those that run in order do so up to the first that fails. -/
theorem runInOrder {as : List (ι × Activity ω Unit)} {rs : List (Result Unit)}
    (h : RunsEach c as logs rs) (s : σ) :
    ∃ t, Activity.runInOrder take as c s = (firstFault rs, c, t) ∧
      (firstFault rs = .ok () → t = takeAll take logs.flatten s) := by
  induction h generalizing s with
  | nil => exact ⟨s, rfl, fun _ => rfl⟩
  | @cons tag a as items logs r rs hruns _ ih =>
    obtain ⟨t, hrun, ht⟩ := ih (takeAll take (items.map fun item => (tag, item)) s)
    rw [Activity.runInOrder, hruns.run_eq, ← takeAll_map]
    cases r with
    | ok u =>
      refine ⟨t, hrun, fun hok => ?_⟩
      rw [List.flatten_cons, takeAll_append, ht hok]
    | error e =>
      refine ⟨_, rfl, fun hok => ?_⟩
      cases hok

/-- After some turns the activities end as they would have ended, and what the turns took comes
first in an interleaving of all items. The induction is on the schedule. -/
theorem runTurns (h : RunsEach c as logs rs) (schedule : List Nat) (s : σ) :
    ∃ as' logs' first, Activity.runTurns take schedule as c s = (as', c, takeAll take first s) ∧
      RunsEach c as' logs' rs ∧ ∀ log, Interleaves logs' log → Interleaves logs (first ++ log) := by
  induction schedule generalizing as logs s with
  | nil => exact ⟨as, logs, [], rfl, h, fun _ hlog => hlog⟩
  | cons turn turns ih =>
    rw [Activity.runTurns]
    split
    · exact ih h s
    · next tag a hturn =>
      obtain ⟨items, r, hruns, hlog, hset⟩ := h.exists_runs hturn
      obtain ⟨hc, rest, rfl, hnext⟩ := hruns.step (take tag) s
      rw [List.map_append] at hlog
      obtain ⟨as', logs', first, hrun, hruns', hfirst⟩ :=
        ih (hset _ rest hnext) (takeAll take (a.stepItems.map fun item => (tag, item)) s)
      refine ⟨as', logs', a.stepItems.map (fun item => (tag, item)) ++ first, ?_, hruns',
        fun log hinter => ?_⟩
      · simp only [hc, step_state, ← takeAll_map take, hrun, takeAll_append]
      · rw [List.append_assoc]
        exact .of_set hlog (hfirst log hinter)

/-- Whatever the schedule, activities that leave the context as it is hand out their items in some
order when they run side by side, and the first that fails says how they end. -/
theorem runSideBySide {as : List (ι × Activity ω Unit)} {rs : List (Result Unit)}
    (h : RunsEach c as logs rs) (schedule : List Nat) (s : σ) :
    ∃ log, Interleaves logs log ∧
      Activity.runSideBySide take schedule as c s = (firstFault rs, c, takeAll take log s) := by
  obtain ⟨as', logs', first, hrun, hruns, hfirst⟩ := h.runTurns take schedule s
  refine ⟨first ++ logs'.flatten, hfirst _ (.flatten logs'), ?_⟩
  simp only [Activity.runSideBySide, hrun, hruns.runEach take, takeAll_append]

/-- Each order in which items can be handed out is that of some turns. -/
theorem exists_runTurns (h : RunsEach c as logs rs) {log : List (ι × ω)}
    (hlog : Interleaves logs log) (s : σ) :
    ∃ schedule as' logs', Activity.runTurns take schedule as c s = (as', c, takeAll take log s) ∧
      RunsEach c as' logs' rs ∧ logs'.flatten = [] := by
  induction log generalizing as logs s with
  | nil => exact ⟨[], as, logs, rfl, h, hlog.eq_nil⟩
  | cons e log ih =>
    obtain ⟨i, l, hi, hrest⟩ := hlog.exists_first
    have hlt : i < as.length := by
      rw [h.length_eq]
      exact (List.getElem?_eq_some_iff.1 hi).1
    obtain ⟨items, r, hruns, hitems, hset⟩ := h.exists_runs (List.getElem?_eq_getElem hlt)
    obtain ⟨item, rest, rfl, rfl, rfl⟩ :=
      List.map_eq_cons_iff.1 (Option.some.inj (hitems.symm.trans hi))
    obtain ⟨turns, next, hrun, hnext⟩ := hruns.gets take s (List.getElem?_eq_getElem hlt)
    obtain ⟨schedule, as', logs', hrun', hruns', hnil⟩ :=
      ih (hset next rest hnext) hrest (take as[i].1 item s)
    refine ⟨turns ++ schedule, as', logs', ?_, hruns', hnil⟩
    rw [runTurns_append, hrun]
    exact hrun'

/-- Each order in which items can be handed out is that of some schedule. -/
theorem exists_schedule {as : List (ι × Activity ω Unit)} {rs : List (Result Unit)}
    (h : RunsEach c as logs rs) {log : List (ι × ω)} (hlog : Interleaves logs log) (s : σ) :
    ∃ schedule,
      Activity.runSideBySide take schedule as c s = (firstFault rs, c, takeAll take log s) := by
  obtain ⟨schedule, as', logs', hrun, hruns, hnil⟩ := h.exists_runTurns take hlog s
  refine ⟨schedule, ?_⟩
  simp only [Activity.runSideBySide, hrun, hruns.runEach take, hnil]
  rfl

end RunsEach

end Activity

end SchemaCheck
