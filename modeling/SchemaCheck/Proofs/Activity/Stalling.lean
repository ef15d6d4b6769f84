import SchemaCheck.Proofs.Activity.Live

/-!
# Activities in a call that is over

An activity that first looks at the context can do nothing but fail once the call is over
(`Activity.Stalls`). So when several run side by side and one of them has not begun when the call is
over, then all of them together fail, whoever's turn it is (`Activity.runSideBySide_stalls`).
-/

namespace SchemaCheck.Activity

variable {ω ι σ : Type}

/-- The activity has yet to look at the context before it does anything, or it has failed. -/
inductive Stalls : Activity ω Unit → Prop where
  | unbegun (next : Activity ω Unit) : Stalls (do check; next)
  | failed (e : Fault) : Stalls (fail e)

section

variable {c : CallContext} (hc : ¬ c.isLive)

include hc

/-- In a context that is not live, the first look at the context ends the activity. -/
theorem exists_step_check (take : ω → σ → σ) (next : Activity ω Unit) (s : σ) :
    ∃ e, (do check; next : Activity ω Unit).step take c s = (fail e, c, s) := by
  cases hcheck : c.check with
  | ok u => exact absurd ((CallContext.check_eq_ok_iff c).1 hcheck) hc
  | error e =>
    refine ⟨e, ?_⟩
    show ((done c.check).bind _, c, s) = _
    rw [hcheck]
    rfl

/-- A step of an activity that has yet to look at the context fails it, and then it has failed. -/
theorem Stalls.step {a : Activity ω Unit} (h : a.Stalls) (take : ω → σ → σ) (s : σ) :
    (a.step take c s).1.Stalls := by
  cases h with
  | unbegun next =>
    obtain ⟨e, hstep⟩ := exists_step_check hc take next s
    rw [hstep]
    exact .failed e
  | failed e => exact .failed e

/-- An activity that has yet to look at the context fails when it runs. -/
theorem Stalls.run {a : Activity ω Unit} (h : a.Stalls) (take : ω → σ → σ) (s : σ) :
    ∃ e, (a.run take c s).1 = .error e := by
  cases h with
  | unbegun next =>
    obtain ⟨e, hstep⟩ := exists_step_check hc take next s
    rw [← run_step, hstep]
    exact ⟨e, rfl⟩
  | failed e => exact ⟨e, rfl⟩

variable (take : ι → ω → σ → σ) {as : List (ι × Activity ω Unit)}

/-- When one of several activities has yet to look at the context, one of the results is a fault. -/
theorem runEach_stalls (h : ∃ a ∈ as, a.2.Stalls) (s : σ) :
    ∃ e, .error e ∈ (runEach take as c s).1 := by
  induction as generalizing c s with
  | nil => simp at h
  | cons a as ih =>
    obtain ⟨tag, a⟩ := a
    obtain ⟨b, hb, hstalls⟩ := h
    rcases List.mem_cons.1 hb with rfl | hb
    · obtain ⟨e, he⟩ := hstalls.run hc (take tag) s
      refine ⟨e, ?_⟩
      rw [runEach, ← he]
      exact List.mem_cons_self
    · have hlater : ¬ (a.run (take tag) c s).2.1.isLive := fun h =>
        hc ((run_evolves (take tag) a c s).isLive h)
      obtain ⟨e, he⟩ := ih hlater ⟨b, hb, hstalls⟩ (a.run (take tag) c s).2.2
      exact ⟨e, List.mem_cons_of_mem _ he⟩

/-- Turns leave an activity stalled that is. -/
theorem runTurns_stalls (schedule : List Nat) (h : ∃ a ∈ as, a.2.Stalls) (s : σ) :
    let left := runTurns take schedule as c s
    (∃ a ∈ left.1, a.2.Stalls) ∧ ¬ left.2.1.isLive := by
  induction schedule generalizing as c s with
  | nil => exact ⟨h, hc⟩
  | cons turn turns ih =>
    rw [runTurns]
    split
    · exact ih hc h s
    · next tag a hturn =>
      have hlater : ¬ (a.step (take tag) c s).2.1.isLive := fun h =>
        hc ((Keeps.step CallContext.evolves_isChange (take tag) (keeps_evolves a) c s).2.isLive h)
      refine ih hlater ?_ _
      obtain ⟨b, hb, hstalls⟩ := h
      obtain ⟨i, hi⟩ := List.mem_iff_getElem?.1 hb
      by_cases hturn' : turn = i
      · -- the turn is that of the stalled one
        subst hturn'
        obtain rfl : (tag, a) = b := Option.some.inj (hturn.symm.trans hi)
        have hlt : turn < as.length := (List.getElem?_eq_some_iff.1 hturn).1
        exact ⟨_, List.mem_set hlt _, hstalls.step hc (take tag) s⟩
      · have hset : (as.set turn (tag, (a.step (take tag) c s).1))[i]? = some b := by
          rw [List.getElem?_set_ne hturn', hi]
        exact ⟨b, List.mem_of_getElem? hset, hstalls⟩

/-- Activities that run side by side fail when one of them is stalled in a call that is over. -/
theorem runSideBySide_stalls (schedule : List Nat) (h : ∃ a ∈ as, a.2.Stalls) (s : σ) :
    ∃ e, (runSideBySide take schedule as c s).1 = .error e := by
  obtain ⟨hstalls, hlater⟩ := runTurns_stalls hc take schedule h s
  obtain ⟨e, he⟩ := runEach_stalls hlater take hstalls (runTurns take schedule as c s).2.2
  rcases firstFault_cases
      (runEach take (runTurns take schedule as c s).1 (runTurns take schedule as c s).2.1
        (runTurns take schedule as c s).2.2).1 with ⟨-, hall⟩ | ⟨e', hfirst, -⟩
  · cases hall _ he
  · exact ⟨e', hfirst⟩

end

end SchemaCheck.Activity
