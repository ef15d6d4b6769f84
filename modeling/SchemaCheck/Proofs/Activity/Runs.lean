import SchemaCheck.Activity.Schedule

/-!
# What an activity does in a context

The run of one activity as a relation (`Activity.Runs`): from a context it hands out items, ends
with a result and leaves a context, whether or not the call is cancelled or over meanwhile. Every
activity runs in every context (`run_runs`), and in one way only (`Runs.unique`).
-/

namespace SchemaCheck.Activity

variable {ω σ α β : Type}

/-- From the first context the activity hands out the items, ends with the result and leaves the
second context. -/
inductive Runs : Activity ω α → CallContext → List ω → Result α → CallContext → Prop where
  | done (r : Result α) (c : CallContext) : Runs (.done r) c [] r c
  | emit {item : ω} {next : Activity ω α} {c d : CallContext} {items : List ω} {r : Result α} :
      Runs next c items r d → Runs (.emit item next) c (item :: items) r d
  | cancel {next : Activity ω α} {c d : CallContext} {items : List ω} {r : Result α} :
      Runs next c.cancel items r d → Runs (.cancel next) c items r d
  | elapse {t : Nat} {next : Activity ω α} {c d : CallContext} {items : List ω} {r : Result α} :
      Runs next (c.elapse t) items r d → Runs (.elapse t next) c items r d
  | observe {next : CallContext → Activity ω α} {c d : CallContext} {items : List ω}
      {r : Result α} : Runs (next c) c items r d → Runs (.observe next) c items r d

/-- A run of an activity hands its items to the state one after another. -/
theorem run_runs (take : ω → σ → σ) (a : Activity ω α) (c : CallContext) (s : σ) :
    ∃ items, Runs a c items (a.run take c s).1 (a.run take c s).2.1 ∧
      (a.run take c s).2.2 = items.foldl (fun s item => take item s) s := by
  induction a generalizing c s with
  | done r => exact ⟨[], .done r c, rfl⟩
  | emit item next ih =>
    obtain ⟨items, hruns, hs⟩ := ih c (take item s)
    exact ⟨item :: items, .emit hruns, hs⟩
  | cancel next ih =>
    obtain ⟨items, hruns, hs⟩ := ih c.cancel s
    exact ⟨items, .cancel hruns, hs⟩
  | elapse t next ih =>
    obtain ⟨items, hruns, hs⟩ := ih (c.elapse t) s
    exact ⟨items, .elapse hruns, hs⟩
  | observe next ih =>
    obtain ⟨items, hruns, hs⟩ := ih c c s
    exact ⟨items, .observe hruns, hs⟩

/-- In one context an activity runs in one way. -/
theorem Runs.unique {a : Activity ω α} {c d d' : CallContext} {items items' : List ω}
    {r r' : Result α} (h : Runs a c items r d) (h' : Runs a c items' r' d') :
    items = items' ∧ r = r' ∧ d = d' := by
  induction h generalizing items' r' d' with
  | done r c =>
    cases h'
    exact ⟨rfl, rfl, rfl⟩
  | emit _ ih =>
    cases h' with
    | emit h' =>
      obtain ⟨rfl, rfl, rfl⟩ := ih h'
      exact ⟨rfl, rfl, rfl⟩
  | cancel _ ih =>
    cases h' with
    | cancel h' => exact ih h'
  | elapse _ ih =>
    cases h' with
    | elapse h' => exact ih h'
  | observe _ ih =>
    cases h' with
    | observe h' => exact ih h'

/-- A run lets its context evolve. -/
theorem Runs.evolves {a : Activity ω α} {c d : CallContext} {items : List ω} {r : Result α}
    (h : Runs a c items r d) : c.Evolves d := by
  induction h with
  | done r c => exact .refl c
  | emit _ ih => exact ih
  | cancel _ ih => exact (CallContext.evolves_cancel _).trans ih
  | elapse _ ih => exact (CallContext.evolves_elapse _ _).trans ih
  | observe _ ih => exact ih

/-- A run is what the relation says of it. -/
theorem Runs.run_eq {a : Activity ω α} {c d : CallContext} {items : List ω} {r : Result α}
    (h : Runs a c items r d) (take : ω → σ → σ) (s : σ) :
    a.run take c s = (r, d, items.foldl (fun s item => take item s) s) := by
  obtain ⟨items', hruns, hstate⟩ := run_runs take a c s
  obtain ⟨rfl, rfl, rfl⟩ := h.unique hruns
  rw [← hstate]

/-- In every context an activity runs in some way. -/
theorem exists_runs (a : Activity ω α) (c : CallContext) : ∃ items r d, Runs a c items r d := by
  obtain ⟨items, hruns, -⟩ := run_runs (fun _ u => u) a c ()
  exact ⟨items, _, _, hruns⟩

/-- What comes after an activity that succeeds runs in the context that it leaves. -/
theorem Runs.bind {a : Activity ω α} {f : α → Activity ω β} {c c' d : CallContext}
    {first rest : List ω} {x : α} {r : Result β} (h : Runs a c first (.ok x) c')
    (hrest : Runs (f x) c' rest r d) : Runs (a >>= f) c (first ++ rest) r d := by
  show Runs (a.bind f) c (first ++ rest) r d
  generalize hresult : (.ok x : Result α) = result at h
  induction h with
  | done r c =>
    subst hresult
    exact hrest
  | emit _ ih => exact .emit (ih hrest hresult)
  | cancel _ ih => exact .cancel (ih hrest hresult)
  | elapse _ ih => exact .elapse (ih hrest hresult)
  | observe _ ih => exact .observe (ih hrest hresult)

/-- Nothing comes after an activity that fails. -/
theorem Runs.bind_error {a : Activity ω α} {f : α → Activity ω β} {c d : CallContext}
    {items : List ω} {e : Fault} (h : Runs a c items (.error e) d) :
    Runs (a >>= f) c items (.error e) d := by
  show Runs (a.bind f) c items (.error e) d
  generalize hresult : (.error e : Result α) = result at h
  induction h with
  | done r c =>
    subst hresult
    exact .done _ c
  | emit _ ih => exact .emit (ih hresult)
  | cancel _ ih => exact .cancel (ih hresult)
  | elapse _ ih => exact .elapse (ih hresult)
  | observe _ ih => exact .observe (ih hresult)

/-- An activity that is to start with a look at its context goes on in a live one only. -/
theorem runs_check_bind {next : Activity ω α} {c d : CallContext} {items : List ω} {r : Result α}
    (h : Runs (do check; next) c items r d) :
    (c.isLive ∧ Runs next c items r d) ∨
      ∃ e, c.check = .error e ∧ items = [] ∧ r = .error e ∧ d = c := by
  cases h with
  | observe h =>
    cases hcheck : c.check with
    | ok u =>
      simp only [Activity.bind, hcheck] at h
      exact .inl ⟨(CallContext.check_eq_ok_iff c).1 hcheck, h⟩
    | error e =>
      simp only [Activity.bind, hcheck] at h
      cases h
      exact .inr ⟨e, rfl, rfl, rfl, rfl⟩

/-- In a live context an activity that is to start with a look at it goes on. -/
theorem Runs.check_bind {next : Activity ω α} {c d : CallContext} {items : List ω} {r : Result α}
    (hlive : c.isLive) (h : Runs next c items r d) : Runs (do check; next) c items r d := by
  refine .observe ?_
  simpa only [Activity.bind, (CallContext.check_eq_ok_iff c).2 hlive] using h

end SchemaCheck.Activity
