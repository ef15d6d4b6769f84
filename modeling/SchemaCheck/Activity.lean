import SchemaCheck.Context

/-!
# Activities

What the code of a rule does while a call runs, as a tree of atomic steps: it hands out items, may
look at the context of the call, cancel it, or take time, and ends with a result. Between two steps
of one activity others may take theirs; within a step none can. The tree is finite along every path,
so that an activity always ends.
-/

namespace SchemaCheck

/-- A computation inside a call that hands out items of type `ω` and results in an `α`. -/
inductive Activity (ω α : Type) : Type where
  | done (result : Result α)
  | emit (item : ω) (next : Activity ω α)
  | cancel (next : Activity ω α)
  | elapse (time : Nat) (next : Activity ω α)
  | observe (next : CallContext → Activity ω α)

namespace Activity

variable {ω ι σ α β : Type}

/-- An activity and then another, which depends on the result; a fault ends both. -/
def bind (a : Activity ω α) (f : α → Activity ω β) : Activity ω β :=
  match a with
  | done (.ok x) => f x
  | done (.error e) => done (.error e)
  | emit item next => emit item (next.bind f)
  | cancel next => cancel (next.bind f)
  | elapse t next => elapse t (next.bind f)
  | observe next => observe fun c => (next c).bind f

instance : Monad (Activity ω) where
  pure x := done (.ok x)
  bind := bind

/-- Ends with a fault. -/
def fail (e : Fault) : Activity ω α := done (.error e)

/-- Ends at once with a result. -/
def ofResult (r : Result α) : Activity ω α := done r

/-- Hands out one item. -/
def give (item : ω) : Activity ω Unit := emit item (pure ())

/-- Cancels the call. -/
def cancelCall : Activity ω Unit := cancel (pure ())

/-- Fails if the call was cancelled or its deadline has come. -/
def check : Activity ω Unit := observe fun c => done c.check

/-- One activity for each member of a list, in order, up to the first that fails. -/
def forEach (f : β → Activity ω Unit) : List β → Activity ω Unit
  | [] => pure ()
  | b :: bs => do
    f b
    forEach f bs

/-- Runs an activity to its end: the items go to `take`, one after another. -/
def run (take : ω → σ → σ) : Activity ω α → CallContext → σ → Result α × CallContext × σ
  | done r, c, s => (r, c, s)
  | emit item next, c, s => run take next c (take item s)
  | cancel next, c, s => run take next c.cancel s
  | elapse t next, c, s => run take next (c.elapse t) s
  | observe next, c, s => run take (next c) c s

/-- A run lets its context evolve and nothing else. -/
theorem run_evolves (take : ω → σ → σ) (a : Activity ω α) (c : CallContext) (s : σ) :
    c.Evolves (a.run take c s).2.1 := by
  induction a generalizing c s with
  | done r => exact .refl c
  | emit item next ih => exact ih c _
  | cancel next ih => exact (CallContext.evolves_cancel c).trans (ih _ s)
  | elapse t next ih => exact (CallContext.evolves_elapse c t).trans (ih _ s)
  | observe next ih => exact ih c c s

/-- The first step of an activity; one that is done stays. -/
def step (take : ω → σ → σ) : Activity ω α → CallContext → σ → Activity ω α × CallContext × σ
  | done r, c, s => (done r, c, s)
  | emit item next, c, s => (next, c, take item s)
  | cancel next, c, s => (next, c.cancel, s)
  | elapse t next, c, s => (next, c.elapse t, s)
  | observe next, c, s => (next c, c, s)

/-- A step changes nothing about how a run ends. -/
theorem run_step (take : ω → σ → σ) (a : Activity ω α) (c : CallContext) (s : σ) :
    (let (b, d, t) := a.step take c s; b.run take d t) = a.run take c s := by
  cases a <;> rfl

end Activity

end SchemaCheck
