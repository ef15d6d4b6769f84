import SchemaCheck.Proofs.Activity.Keeping

/-!
# Activities that leave the context alone

A calm activity neither cancels nor takes time. It keeps every relation between contexts
(`Calm.keeps`), equality among them, so any number of calm activities leaves the context as it is.
-/

namespace SchemaCheck.Activity

variable {ω α β : Type}

/-- The activity neither cancels nor takes time, whatever it sees of its context. -/
def Calm : Activity ω α → Prop
  | done _ => True
  | emit _ next => next.Calm
  | cancel _ => False
  | elapse _ _ => False
  | observe next => ∀ c, (next c).Calm

/-- An activity that is done is calm. -/
theorem calm_pure (x : α) : (pure x : Activity ω α).Calm := trivial

/-- An activity that has failed is as calm as one that has succeeded. -/
theorem calm_ofResult (r : Result α) : (ofResult r : Activity ω α).Calm := trivial

/-- To hand out an item is calm. -/
theorem calm_give (item : ω) : (give item).Calm := trivial

/-- To look at the context is calm: what is seen of it changes nothing. -/
theorem calm_check : (check : Activity ω Unit).Calm := fun _ => trivial

/-- A calm activity before calm ones makes a calm one. -/
theorem Calm.bind {a : Activity ω α} {f : α → Activity ω β} (h : a.Calm) (hf : ∀ x, (f x).Calm) :
    (a >>= f).Calm := by
  show (a.bind f).Calm
  induction a with
  | done result =>
    cases result with
    | ok x => exact hf x
    | error e => trivial
  | emit item next ih => exact ih h
  | cancel next ih => exact h.elim
  | elapse t next ih => exact h.elim
  | observe next ih => exact fun c => ih c (h c)

/-- A loop is calm when each of its turns is. -/
theorem calm_forEach {f : β → Activity ω Unit} (h : ∀ b, (f b).Calm) (bs : List β) :
    (forEach f bs).Calm := by
  induction bs with
  | nil => trivial
  | cons b bs ih => exact (h b).bind fun _ => ih

/-- A calm activity keeps whatever relation there is, for it takes no step that could break one. -/
theorem Calm.keeps {R : CallContext → CallContext → Prop} {a : Activity ω α} (h : a.Calm) :
    a.Keeps R := by
  induction a with
  | done r => trivial
  | emit item next ih => exact ih h
  | cancel next ih => exact h.elim
  | elapse t next ih => exact h.elim
  | observe next ih => exact fun c => ih c (h c)

end SchemaCheck.Activity
