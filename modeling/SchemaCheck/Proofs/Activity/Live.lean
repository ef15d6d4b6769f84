import SchemaCheck.Proofs.Activity.Keeping

/-!
# Activities in a call that stays live

What an activity hands out, and how it ends, when whatever it sees of its context is live
(`Activity.Yields`): it may take time, but does not cancel. A run whose context is live at the end
goes that way (`run_yields`), since a context that is not live never is again. When several
activities run, in order or side by side to the turns of any schedule, the items of each are the
same as if it ran alone, and the items of all are handed out in some order (`runSideBySide_yields`).
-/

namespace SchemaCheck.Activity

open CallContext (evolves_isChange)

variable {ω ι σ α β : Type}

/-- In a live context the activity hands out the items and ends with the result. -/
inductive Yields : Activity ω α → List ω → Result α → Prop where
  | done (r : Result α) : Yields (.done r) [] r
  | emit {item : ω} {next : Activity ω α} {items : List ω} {r : Result α} :
      Yields next items r → Yields (.emit item next) (item :: items) r
  | elapse {t : Nat} {next : Activity ω α} {items : List ω} {r : Result α} :
      Yields next items r → Yields (.elapse t next) items r
  | observe {c : CallContext} {next : CallContext → Activity ω α} {items : List ω} {r : Result α} :
      c.isLive → Yields (next c) items r → Yields (.observe next) items r

/-- A fault of one activity ends it together with what would follow. -/
theorem Yields.bind_of_error {a : Activity ω α} {f : α → Activity ω β} {items : List ω} {e : Fault}
    (h : Yields a items (.error e)) : Yields (a >>= f) items (.error e) := by
  show Yields (a.bind f) items _
  generalize hresult : (.error e : Result α) = result at h
  induction h with
  | done r =>
    subst hresult
    exact .done _
  | emit _ ih => exact .emit (ih hresult)
  | elapse _ ih => exact .elapse (ih hresult)
  | observe hc _ ih => exact .observe hc (ih hresult)

/-- What follows an activity yields its items after those of the activity. -/
theorem Yields.bind {a : Activity ω α} {f : α → Activity ω β} {first rest : List ω} {x : α}
    {r : Result β} (h : Yields a first (.ok x)) (hrest : Yields (f x) rest r) :
    Yields (a >>= f) (first ++ rest) r := by
  show Yields (a.bind f) _ r
  generalize hresult : (.ok x : Result α) = result at h
  induction h with
  | done r =>
    subst hresult
    exact hrest
  | emit _ ih => exact .emit (ih hresult)
  | elapse _ ih => exact .elapse (ih hresult)
  | observe hc _ ih => exact .observe hc (ih hresult)

/-- What one activity and then another yield comes apart. The induction is on the first. -/
theorem Yields.of_bind {a : Activity ω α} {f : α → Activity ω β} {items : List ω} {r : Result β}
    (h : Yields (a.bind f) items r) : (∃ e, Yields a items (.error e) ∧ r = .error e) ∨
      ∃ x first rest, Yields a first (.ok x) ∧ Yields (f x) rest r ∧ items = first ++ rest := by
  induction a generalizing items with
  | done result =>
    cases result with
    | ok x => exact .inr ⟨x, [], items, .done _, h, rfl⟩
    | error e =>
      cases h
      exact .inl ⟨e, .done _, rfl⟩
  | emit item next ih =>
    cases h with
    | emit h =>
      rcases ih h with ⟨e, hy, hr⟩ | ⟨x, first, rest, hy, hrest, rfl⟩
      · exact .inl ⟨e, .emit hy, hr⟩
      · exact .inr ⟨x, item :: first, rest, .emit hy, hrest, rfl⟩
  | cancel next ih => cases h
  | elapse t next ih =>
    cases h with
    | elapse h =>
      rcases ih h with ⟨e, hy, hr⟩ | ⟨x, first, rest, hy, hrest, heq⟩
      · exact .inl ⟨e, .elapse hy, hr⟩
      · exact .inr ⟨x, first, rest, .elapse hy, hrest, heq⟩
  | observe next ih =>
    cases h with
    | @observe c _ _ _ hc h =>
      rcases ih c h with ⟨e, hy, hr⟩ | ⟨x, first, rest, hy, hrest, heq⟩
      · exact .inl ⟨e, .observe hc hy, hr⟩
      · exact .inr ⟨x, first, rest, .observe hc hy, hrest, heq⟩

/-- One activity and then another yield what the first does, and then what the other does with its
result; a fault ends both. -/
theorem yields_bind_iff {a : Activity ω α} {f : α → Activity ω β} {items : List ω} {r : Result β} :
    Yields (a >>= f) items r ↔ (∃ e, Yields a items (.error e) ∧ r = .error e) ∨
      ∃ x first rest, Yields a first (.ok x) ∧ Yields (f x) rest r ∧ items = first ++ rest := by
  refine ⟨Yields.of_bind, ?_⟩
  rintro (⟨e, hy, rfl⟩ | ⟨x, first, rest, hy, hrest, rfl⟩)
  · exact hy.bind_of_error
  · exact hy.bind hrest

/-- A check passes in a live context. -/
theorem yields_check_bind {next : Activity ω α} {items : List ω} {r : Result α} :
    Yields (do check; next) items r ↔ Yields next items r := by
  constructor
  · rintro (_ | _ | _ | @⟨c, _, _, _, hc, h⟩)
    have hcheck := (CallContext.check_eq_ok_iff c).2 hc
    simpa only [bind, Activity.bind, hcheck] using h
  · intro h
    refine .observe (c := {}) (by decide) ?_
    exact h

/-- A cancelled context is not live. -/
theorem not_isLive_cancel (c : CallContext) : ¬ c.cancel.isLive := by
  simp [CallContext.isLive, CallContext.cancel]

/-- A run whose context is live at the end hands its items to the state one after another. -/
theorem run_yields (take : ω → σ → σ) (a : Activity ω α) (c : CallContext) (s : σ)
    (h : (a.run take c s).2.1.isLive) :
    ∃ items, Yields a items (a.run take c s).1 ∧
      (a.run take c s).2.2 = items.foldl (fun s item => take item s) s := by
  induction a generalizing c s with
  | done r => exact ⟨[], .done r, rfl⟩
  | emit item next ih =>
    obtain ⟨items, hy, hs⟩ := ih c (take item s) h
    exact ⟨item :: items, .emit hy, hs⟩
  | cancel next ih =>
    have hc := (run_evolves take next c.cancel s).isLive h
    exact absurd hc (not_isLive_cancel c)
  | elapse t next ih =>
    obtain ⟨items, hy, hs⟩ := ih (c.elapse t) s h
    exact ⟨items, .elapse hy, hs⟩
  | observe next ih =>
    obtain ⟨items, hy, hs⟩ := ih c c s h
    have hc : c.isLive := (run_evolves take (next c) c s).isLive h
    exact ⟨items, .observe hc hy, hs⟩

/-! ## Several activities -/

/-- Each activity yields its result, and the log has the items of all, with tags, one activity after
another. -/
inductive YieldsAll : List (ι × Activity ω α) → List (ι × ω) → List (Result α) → Prop where
  | nil : YieldsAll [] [] []
  | cons {tag : ι} {a : Activity ω α} {as : List (ι × Activity ω α)} {items : List ω}
      {log : List (ι × ω)} {r : Result α} {rs : List (Result α)} :
      Yields a items r → YieldsAll as log rs →
        YieldsAll ((tag, a) :: as) (items.map (fun item => (tag, item)) ++ log) (r :: rs)

/-- The state once the items of a log were handed to it. -/
def takeAll (take : ι → ω → σ → σ) (log : List (ι × ω)) (s : σ) : σ :=
  log.foldl (fun s e => take e.1 e.2 s) s

/-- A log in two parts is taken part by part. -/
theorem takeAll_append (take : ι → ω → σ → σ) (log log' : List (ι × ω)) (s : σ) :
    takeAll take (log ++ log') s = takeAll take log' (takeAll take log s) :=
  List.foldl_append

/-- The items of one activity are taken under its tag. -/
theorem takeAll_map (take : ι → ω → σ → σ) (tag : ι) (items : List ω) (s : σ) :
    takeAll take (items.map fun item => (tag, item)) s
      = items.foldl (fun s item => take tag item s) s := by
  simp [takeAll, List.foldl_map]

/-- Running activities one after another lets their context evolve. -/
theorem runEach_evolves (take : ι → ω → σ → σ) (as : List (ι × Activity ω α)) (c : CallContext)
    (s : σ) : c.Evolves (runEach take as c s).2.1 :=
  runEach_keeps evolves_isChange take (fun a _ => keeps_evolves a.2) c s

/-- Activities that run one after another yield what each yields. -/
theorem runEach_yields (take : ι → ω → σ → σ) (as : List (ι × Activity ω α)) (c : CallContext)
    (s : σ) (h : (runEach take as c s).2.1.isLive) :
    ∃ log, YieldsAll as log (runEach take as c s).1 ∧
      (runEach take as c s).2.2 = takeAll take log s := by
  induction as generalizing c s with
  | nil => exact ⟨[], .nil, rfl⟩
  | cons e as ih =>
    obtain ⟨tag, a⟩ := e
    obtain ⟨log, hlog, hs⟩ := ih (a.run (take tag) c s).2.1 (a.run (take tag) c s).2.2 h
    have hlive : (a.run (take tag) c s).2.1.isLive := (runEach_evolves take as _ _).isLive h
    obtain ⟨items, hitems, hs'⟩ := run_yields (take tag) a c s hlive
    refine ⟨items.map (fun item => (tag, item)) ++ log, .cons hitems hlog, ?_⟩
    rw [takeAll_append, takeAll_map, ← hs']
    exact hs

/-- What a step hands out. -/
def stepItems : Activity ω α → List ω
  | emit item _ => [item]
  | _ => []

/-- A step in a context that stays live takes the first of the items that the activity yields. -/
theorem yields_of_step {take : ω → σ → σ} {a : Activity ω α} {c : CallContext} {s : σ}
    {items : List ω} {r : Result α} (h : (a.step take c s).2.1.isLive)
    (hy : Yields (a.step take c s).1 items r) : Yields a (a.stepItems ++ items) r := by
  cases a with
  | done result => exact hy
  | emit item next => exact .emit hy
  | cancel next => exact absurd h (not_isLive_cancel c)
  | elapse t next => exact .elapse hy
  | observe next => exact .observe h hy

/-- A step takes the items that it hands out, which is one or none. -/
theorem step_state (take : ω → σ → σ) (a : Activity ω α) (c : CallContext) (s : σ) :
    (a.step take c s).2.2 = a.stepItems.foldl (fun s item => take item s) s := by
  cases a <;> rfl

/-- When one of several activities has handed out items, these belong to what all yield. -/
theorem yieldsAll_of_set {as : List (ι × Activity ω α)} {turn : Nat} {tag : ι}
    {a a' : Activity ω α} {first : List ω} {log : List (ι × ω)} {rs : List (Result α)}
    (hturn : as[turn]? = some (tag, a))
    (ha : ∀ items r, Yields a' items r → Yields a (first ++ items) r)
    (h : YieldsAll (as.set turn (tag, a')) log rs) :
    ∃ log', YieldsAll as log' rs ∧ log'.Perm (first.map (fun item => (tag, item)) ++ log) := by
  induction as generalizing turn log rs with
  | nil => simp at hturn
  | cons e as ih =>
    cases turn with
    | zero =>
      obtain rfl : e = (tag, a) := by simpa using hturn
      rw [List.set_cons_zero] at h
      cases h with
      | @cons _ _ _ items log r rs hy hrest =>
        refine ⟨_, .cons (ha items r hy) hrest, ?_⟩
        rw [List.map_append, List.append_assoc]
    | succ turn =>
      rw [List.set_cons_succ] at h
      rw [List.getElem?_cons_succ] at hturn
      cases h with
      | @cons tag' b _ items log r rs hy hrest =>
        obtain ⟨log', hlog', hperm⟩ := ih hturn hrest
        refine ⟨_, .cons hy hlog', ?_⟩
        exact (hperm.append_left _).trans (List.perm_append_comm_assoc ..)

/-- Turns let the context evolve. -/
theorem runTurns_evolves (take : ι → ω → σ → σ) (schedule : List Nat)
    (as : List (ι × Activity ω α)) (c : CallContext) (s : σ) :
    c.Evolves (runTurns take schedule as c s).2.1 :=
  (runTurns_keeps evolves_isChange take schedule (fun a _ => keeps_evolves a.2) c s).2

/-- What activities yield after some turns, with what was handed out in the turns, is what they
yield from the start. The induction is on the schedule; a turn changes one activity by one step. -/
theorem runTurns_yields (take : ι → ω → σ → σ) (schedule : List Nat)
    (as : List (ι × Activity ω α)) (c : CallContext) (s : σ)
    (h : (runTurns take schedule as c s).2.1.isLive) :
    ∃ first, (runTurns take schedule as c s).2.2 = takeAll take first s ∧
      ∀ log rs, YieldsAll (runTurns take schedule as c s).1 log rs →
        ∃ log', YieldsAll as log' rs ∧ log'.Perm (first ++ log) := by
  induction schedule generalizing as c s with
  | nil => exact ⟨[], rfl, fun log rs hy => ⟨log, hy, .refl _⟩⟩
  | cons turn turns ih =>
    rw [runTurns] at h ⊢
    split at h
    · next hnone =>
      exact ih as c s h
    · next tag a hturn =>
      obtain ⟨first, hs, hall⟩ := ih _ _ _ h
      have hlive : (a.step (take tag) c s).2.1.isLive :=
        (runTurns_evolves take turns _ _ _).isLive h
      refine ⟨a.stepItems.map (fun item => (tag, item)) ++ first, ?_, fun log rs hy => ?_⟩
      · rw [takeAll_append, takeAll_map, ← step_state]
        exact hs
      · obtain ⟨log₁, hy₁, hperm₁⟩ := hall log rs hy
        obtain ⟨log₂, hy₂, hperm₂⟩ :=
          yieldsAll_of_set hturn (fun items r hitems => yields_of_step hlive hitems) hy₁
        refine ⟨log₂, hy₂, hperm₂.trans ?_⟩
        rw [List.append_assoc]
        exact hperm₁.append_left _

/-- What becomes of activities that run in one call: all succeed and hand out their items in some
order, or one of them ends with the fault. -/
inductive Outcome (take : ι → ω → σ → σ) (as : List (ι × Activity ω Unit)) (s : σ) :
    Result Unit → σ → Prop where
  | ok {log taken : List (ι × ω)} {rs : List (Result Unit)} :
      YieldsAll as log rs → (∀ r ∈ rs, r = .ok ()) → taken.Perm log →
        Outcome take as s (.ok ()) (takeAll take taken s)
  | error {tag : ι} {a : Activity ω Unit} {items : List ω} {e : Fault} {t : σ} :
      (tag, a) ∈ as → Yields a items (.error e) → Outcome take as s (.error e) t

/-- The first fault is there when not all results are good. -/
theorem firstFault_cases (rs : List (Result Unit)) :
    (firstFault rs = .ok () ∧ ∀ r ∈ rs, r = .ok ()) ∨
      ∃ e, firstFault rs = .error e ∧ .error e ∈ rs := by
  induction rs with
  | nil => exact .inl ⟨rfl, by simp⟩
  | cons r rs ih =>
    cases r with
    | error e => exact .inr ⟨e, rfl, by simp⟩
    | ok u =>
      rcases ih with ⟨hf, hall⟩ | ⟨e, hf, he⟩
      · exact .inl ⟨hf, by simpa using hall⟩
      · exact .inr ⟨e, hf, List.mem_cons_of_mem _ he⟩

/-- A result of all is the result of one. -/
theorem YieldsAll.exists_of_mem {as : List (ι × Activity ω α)} {log : List (ι × ω)}
    {rs : List (Result α)} {r : Result α} (h : YieldsAll as log rs) (hr : r ∈ rs) :
    ∃ tag a items, (tag, a) ∈ as ∧ Yields a items r := by
  induction h with
  | nil => simp at hr
  | @cons tag a as items log r' rs hy _ ih =>
    rcases List.mem_cons.1 hr with rfl | hr
    · exact ⟨tag, a, items, by simp, hy⟩
    · obtain ⟨tag', a', items', hmem, hy'⟩ := ih hr
      exact ⟨tag', a', items', List.mem_cons_of_mem _ hmem, hy'⟩

/-- Activities that run side by side do what each does by itself, whatever the schedule. -/
theorem runSideBySide_yields (take : ι → ω → σ → σ) (schedule : List Nat)
    (as : List (ι × Activity ω Unit)) (c : CallContext) (s : σ)
    (h : (runSideBySide take schedule as c s).2.1.isLive) :
    Outcome take as s (runSideBySide take schedule as c s).1
      (runSideBySide take schedule as c s).2.2 := by
  obtain ⟨log, hlog, hs⟩ := runEach_yields take _ _ _ h
  have hlive := (runEach_evolves take (runTurns take schedule as c s).1 _ _).isLive h
  obtain ⟨first, hfirst, hall⟩ := runTurns_yields take schedule as c s hlive
  obtain ⟨log', hlog', hperm⟩ := hall _ _ hlog
  have hstate : (runSideBySide take schedule as c s).2.2 = takeAll take (first ++ log) s := by
    rw [takeAll_append, ← hfirst]
    exact hs
  rw [hstate]
  rcases firstFault_cases (runEach take (runTurns take schedule as c s).1
      (runTurns take schedule as c s).2.1 (runTurns take schedule as c s).2.2).1
    with ⟨hok, hrs⟩ | ⟨e, herr, he⟩
  · have hresult : (runSideBySide take schedule as c s).1 = .ok () := hok
    rw [hresult]
    exact .ok hlog' hrs hperm.symm
  · have hresult : (runSideBySide take schedule as c s).1 = .error e := herr
    rw [hresult]
    obtain ⟨tag, a, items, hmem, hy⟩ := hlog'.exists_of_mem he
    exact .error hmem hy

/-- Running activities in order lets their context evolve. -/
theorem runInOrder_evolves (take : ι → ω → σ → σ) (as : List (ι × Activity ω Unit))
    (c : CallContext) (s : σ) : c.Evolves (runInOrder take as c s).2.1 :=
  runInOrder_keeps evolves_isChange take (fun a _ => keeps_evolves a.2) c s

/-- Activities that run in order do what each does by itself. -/
theorem runInOrder_yields (take : ι → ω → σ → σ) (as : List (ι × Activity ω Unit))
    (c : CallContext) (s : σ) (h : (runInOrder take as c s).2.1.isLive) :
    Outcome take as s (runInOrder take as c s).1 (runInOrder take as c s).2.2 := by
  induction as generalizing c s with
  | nil =>
    have hnil : Outcome take [] s (.ok ()) (takeAll take [] s) := .ok .nil (by simp) (.refl _)
    exact hnil
  | cons e as ih =>
    obtain ⟨tag, a⟩ := e
    have hyields := run_yields (take tag) a c s
    rw [runInOrder] at h ⊢
    split at h
    · next c' s' heq =>
      simp only [heq] at hyields ⊢
      have hlive : c'.isLive := (runInOrder_evolves take as c' s').isLive h
      obtain ⟨items, hy, rfl⟩ := hyields hlive
      -- the rest runs in the state that the first leaves
      have hrest := ih c' _ h
      generalize runInOrder take as c' _ = run at hrest ⊢
      obtain ⟨r, d, t⟩ := run
      cases hrest with
      | @ok log taken rs hlog hrs hperm =>
        have hstate : takeAll take taken (items.foldl (fun s item => take tag item s) s)
            = takeAll take (items.map (fun item => (tag, item)) ++ taken) s := by
          rw [takeAll_append, takeAll_map]
        show Outcome take ((tag, a) :: as) s (.ok ()) (takeAll take taken _)
        rw [hstate]
        refine .ok (.cons hy hlog) ?_ (hperm.append_left _)
        simpa using hrs
      | error hmem hy' => exact .error (List.mem_cons_of_mem _ hmem) hy'
    · next e c' s' heq =>
      simp only [heq] at hyields ⊢
      obtain ⟨items, hy, -⟩ := hyields h
      exact .error List.mem_cons_self hy

end SchemaCheck.Activity
