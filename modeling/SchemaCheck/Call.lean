import SchemaCheck.Context

/-!
# Calls

A caller's computation runs in a session: the context of the call, and the state of whatever lies on
the other side, of a type `σ` that the caller knows nothing about. It may fail; and one that drains
a listing may be given up before it is finished, because the listing has no end.
-/

namespace SchemaCheck

/-- What a caller's computation runs in. -/
structure Session (σ : Type) where
  context : CallContext
  state : σ

/-- Why a caller's computation has no result. -/
inductive Stop where
  | fault (fault : Fault)
  /-- It was given up while it was waiting for more. -/
  | unfinished
  deriving Repr

/-- A caller's computation. -/
abbrev Call (σ : Type) := ExceptT Stop (StateM (Session σ))

namespace Call

variable {σ τ α β : Type}

/-- The computation that a function on sessions is. -/
def mk (f : Session σ → Except Stop α × Session σ) : Call σ α := ExceptT.mk f

/-- What a computation does in a session. -/
def runIn (act : Call σ α) (s : Session σ) : Except Stop α × Session σ := ExceptT.run act s

/-- To run a computation is to apply the function that it is made of. -/
@[simp] theorem runIn_mk (f : Session σ → Except Stop α × Session σ) (s : Session σ) :
    (mk f).runIn s = f s := rfl

/-- A result as the result of a computation. -/
def lift (r : Result α) : Except Stop α :=
  match r with
  | .ok a => .ok a
  | .error e => .error (.fault e)

/-- A result that does not depend on the session. -/
def ofResult (r : Result α) : Call σ α := mk fun s => (lift r, s)

/-- Fails with a fault. -/
def fail (e : Fault) : Call σ α := mk fun s => (.error (.fault e), s)

/-- Gives up. -/
def giveUp : Call σ α := mk fun s => (.error .unfinished, s)

/-- Fails if the call was cancelled or its deadline has come. -/
def check : Call σ Unit := mk fun s => (lift s.context.check, s)

/-- A value that is given needs no call and changes nothing. -/
@[simp] theorem runIn_pure (a : α) (s : Session σ) : (pure a : Call σ α).runIn s = (.ok a, s) := rfl

/-- What comes after a computation runs in the session that it leaves, unless it has no result. -/
theorem runIn_bind (act : Call σ α) (next : α → Call σ β) (s : Session σ) :
    (act >>= next).runIn s = match act.runIn s with
      | (.ok a, t) => (next a).runIn t
      | (.error e, t) => (.error e, t) := by
  unfold runIn ExceptT.run
  simp only [bind, ExceptT.bind, ExceptT.mk, StateT.bind]
  cases act s with
  | mk result t => cases result <;> rfl

/-- A result that is at hand is given, and the session stays as it is. -/
@[simp] theorem runIn_ofResult (r : Result α) (s : Session σ) :
    (ofResult r : Call σ α).runIn s = (lift r, s) := rfl

/-- To fail leaves the session as it is. -/
@[simp] theorem runIn_fail (e : Fault) (s : Session σ) :
    (fail e : Call σ α).runIn s = (.error (.fault e), s) := rfl

/-- A look at the context gives what the context says, and changes nothing. -/
@[simp] theorem runIn_check (s : Session σ) :
    (check : Call σ Unit).runIn s = (lift s.context.check, s) := rfl

end Call

/-- A part of a state that can be read and replaced. -/
structure Slot (σ β : Type) where
  get : σ → β
  put : β → σ → σ

/-- A slot whose part is all that it replaces. -/
structure Slot.Lawful {σ β : Type} (slot : Slot σ β) : Prop where
  get_put : ∀ b s, slot.get (slot.put b s) = b
  put_get : ∀ s, slot.put (slot.get s) s = s
  put_put : ∀ b c s, slot.put c (slot.put b s) = slot.put c s

/-- A computation on a part of a state, as one on the state. -/
def Call.within {σ β α : Type} (slot : Slot σ β) (act : Call β α) : Call σ α :=
  Call.mk fun s =>
    let (r, t) := act.runIn ⟨s.context, slot.get s.state⟩
    (r, ⟨t.context, slot.put t.state s.state⟩)

end SchemaCheck
