import SchemaCheck.Activity.Schedule

/-!
# What activities do to their context

An activity keeps a relation between contexts when each of its steps does, whatever it sees
(`Activity.Keeps`). Then so does its run, and the run of any number of such activities, in order or
side by side to the turns of any schedule (`runInOrder_keeps`, `runSideBySide_keeps`).
-/

namespace SchemaCheck

namespace CallContext

/-- A relation that tells how contexts change, not at all or step by step. -/
structure IsChange (R : CallContext → CallContext → Prop) : Prop where
  refl : ∀ c, R c c
  trans : ∀ {b c d}, R b c → R c d → R b d

/-- To evolve is a way to change. -/
theorem evolves_isChange : IsChange Evolves := ⟨.refl, Evolves.trans⟩

/-- To stay the same is a way to change. -/
theorem eq_isChange : IsChange Eq := ⟨fun _ => rfl, Eq.trans⟩

/-- Nothing but time passes between two contexts: a call is not cancelled meanwhile, nor has it
another deadline. -/
structure Ages (c d : CallContext) : Prop where
  cancelled : d.cancelled = c.cancelled
  deadline : d.deadline = c.deadline

/-- To age is a way to change. -/
theorem ages_isChange : IsChange Ages :=
  ⟨fun _ => ⟨rfl, rfl⟩, fun h k => ⟨k.cancelled.trans h.cancelled, k.deadline.trans h.deadline⟩⟩

/-- A call without a deadline that was not cancelled goes on, whatever the time. -/
theorem Ages.isLive {c d : CallContext} (h : c.Ages d) (hcancelled : c.cancelled = false)
    (hdeadline : c.deadline = none) : d.isLive := by
  simp [CallContext.isLive, isExpired, h.cancelled, h.deadline, hcancelled, hdeadline]

end CallContext

namespace Activity

open CallContext (IsChange)

variable {ω ι σ α β : Type} {R : CallContext → CallContext → Prop}

/-- Whatever the activity sees of its context, its steps keep a relation: it cancels only if that
does, and takes only as much time as does. -/
def Keeps (R : CallContext → CallContext → Prop) : Activity ω α → Prop
  | done _ => True
  | emit _ next => next.Keeps R
  | cancel next => (∀ c : CallContext, R c c.cancel) ∧ next.Keeps R
  | elapse t next => (∀ c : CallContext, R c (c.elapse t)) ∧ next.Keeps R
  | observe next => ∀ c, (next c).Keeps R

/-- Every activity lets its context evolve. -/
theorem keeps_evolves (a : Activity ω α) : a.Keeps CallContext.Evolves := by
  induction a with
  | done r => trivial
  | emit item next ih => exact ih
  | cancel next ih => exact ⟨CallContext.evolves_cancel, ih⟩
  | elapse t next ih => exact ⟨fun c => CallContext.evolves_elapse c t, ih⟩
  | observe next ih => exact ih

/-- To look at the context keeps every relation. -/
theorem keeps_check : (check : Activity ω Unit).Keeps R := fun _ => trivial

/-- An activity before others keeps what all of them keep. -/
theorem Keeps.bind {a : Activity ω α} {f : α → Activity ω β} (h : a.Keeps R)
    (hf : ∀ x, (f x).Keeps R) : (a >>= f).Keeps R := by
  show (a.bind f).Keeps R
  induction a with
  | done result =>
    cases result with
    | ok x => exact hf x
    | error e => trivial
  | emit item next ih => exact ih h
  | cancel next ih => exact ⟨h.1, ih h.2⟩
  | elapse t next ih => exact ⟨h.1, ih h.2⟩
  | observe next ih => exact fun c => ih c (h c)

variable (hR : IsChange R)

include hR

/-- A run of an activity changes the context as its steps do. -/
theorem run_keeps (take : ω → σ → σ) {a : Activity ω α} (h : a.Keeps R) (c : CallContext) (s : σ) :
    R c (a.run take c s).2.1 := by
  induction a generalizing c s with
  | done r => exact hR.refl c
  | emit item next ih => exact ih h c _
  | cancel next ih => exact hR.trans (h.1 c) (ih h.2 _ s)
  | elapse t next ih => exact hR.trans (h.1 c) (ih h.2 _ s)
  | observe next ih => exact ih c (h c) c s

/-- One step of an activity keeps the relation, and so does what is left of the activity. -/
theorem Keeps.step (take : ω → σ → σ) {a : Activity ω α} (h : a.Keeps R) (c : CallContext) (s : σ) :
    (a.step take c s).1.Keeps R ∧ R c (a.step take c s).2.1 := by
  cases a with
  | done r => exact ⟨h, hR.refl c⟩
  | emit item next => exact ⟨h, hR.refl c⟩
  | cancel next => exact ⟨h.2, h.1 c⟩
  | elapse t next => exact ⟨h.2, h.1 c⟩
  | observe next => exact ⟨h c, hR.refl c⟩

/-! ## Several activities -/

variable (take : ι → ω → σ → σ)

/-- Activities that run one after another change the context as each of them does. -/
theorem runEach_keeps {as : List (ι × Activity ω α)} (h : ∀ a ∈ as, a.2.Keeps R) (c : CallContext)
    (s : σ) : R c (runEach take as c s).2.1 := by
  induction as generalizing c s with
  | nil => exact hR.refl c
  | cons e as ih =>
    obtain ⟨tag, a⟩ := e
    exact hR.trans (run_keeps hR (take tag) (h _ List.mem_cons_self) c s)
      (ih (fun a ha => h a (List.mem_cons_of_mem _ ha)) _ _)

/-- After some turns what is left of the activities keeps the relation, as the turns did. -/
theorem runTurns_keeps (schedule : List Nat) {as : List (ι × Activity ω α)}
    (h : ∀ a ∈ as, a.2.Keeps R) (c : CallContext) (s : σ) :
    (∀ a ∈ (runTurns take schedule as c s).1, a.2.Keeps R) ∧
      R c (runTurns take schedule as c s).2.1 := by
  induction schedule generalizing as c s with
  | nil => exact ⟨h, hR.refl c⟩
  | cons turn turns ih =>
    rw [runTurns]
    split
    · exact ih h c s
    · next tag a hturn =>
      obtain ⟨hstep, hcontext⟩ :=
        Keeps.step hR (take tag) (h _ (List.mem_of_getElem? hturn)) c s
      have hset : ∀ b ∈ as.set turn (tag, (a.step (take tag) c s).1), b.2.Keeps R := by
        intro b hb
        rcases List.mem_or_eq_of_mem_set hb with hb | rfl
        · exact h b hb
        · exact hstep
      obtain ⟨hleft, hrest⟩ := ih hset (a.step (take tag) c s).2.1 (a.step (take tag) c s).2.2
      exact ⟨hleft, hR.trans hcontext hrest⟩

/-- Activities that run side by side change the context as each does: in the turns of the schedule,
and when what is left of them runs out. -/
theorem runSideBySide_keeps (schedule : List Nat) {as : List (ι × Activity ω Unit)}
    (h : ∀ a ∈ as, a.2.Keeps R) (c : CallContext) (s : σ) :
    R c (runSideBySide take schedule as c s).2.1 := by
  obtain ⟨hleft, hcontext⟩ := runTurns_keeps hR take schedule h c s
  exact hR.trans hcontext (runEach_keeps hR take hleft _ _)

/-- Activities that run in order change the context as each does, also when one of them fails. -/
theorem runInOrder_keeps {as : List (ι × Activity ω Unit)} (h : ∀ a ∈ as, a.2.Keeps R)
    (c : CallContext) (s : σ) : R c (runInOrder take as c s).2.1 := by
  induction as generalizing c s with
  | nil => exact hR.refl c
  | cons e as ih =>
    obtain ⟨tag, a⟩ := e
    have hrun := run_keeps hR (take tag) (h _ List.mem_cons_self) c s
    rw [runInOrder]
    split
    · next c' s' heq =>
      rw [heq] at hrun
      exact hR.trans hrun (ih (fun a ha => h a (List.mem_cons_of_mem _ ha)) c' s')
    · next e c' s' heq =>
      rw [heq] at hrun
      exact hrun

end Activity

end SchemaCheck
