import SchemaCheck.Fault

/-!
# Call contexts

A caller gives every call a context: a flag by which it may cancel the call, and perhaps a deadline.
Contexts derived from one another share the flag, and each has a deadline of its own, which can only
be brought forward. `CallContext` is what one context shows at one moment; `ContextFamily` is a
context with everything derived from it.
-/

namespace SchemaCheck

/-- Nanoseconds since the clock was started. -/
abbrev Instant := Nat

namespace Instant

/-- Nanoseconds in a second. -/
def perSecond : Nat := 1000000000

/-- The greatest number of seconds that the clock can count, in a signed word of 64 bits. -/
def maxSeconds : Nat := 9223372036854775807

/-- Whether the clock can count as far as an instant. -/
def isRepresentable (t : Instant) : Bool := t / perSecond ≤ maxSeconds

end Instant

/-- The earlier of a deadline, where there is one, and a new instant. -/
def earlier (deadline : Option Instant) (t : Instant) : Instant :=
  match deadline with
  | none => t
  | some d => min d t

/-- What a call sees of its context at one moment. -/
structure CallContext where
  cancelled : Bool := false
  deadline : Option Instant := none
  now : Instant := 0
  deriving DecidableEq, Repr

namespace CallContext

/-- Whether the deadline has come. -/
def isExpired (c : CallContext) : Bool :=
  match c.deadline with
  | none => false
  | some d => d ≤ c.now

/-- Fails when the call was cancelled, and else when its deadline has come. -/
def check (c : CallContext) : Result Unit :=
  if c.cancelled then .error .cancelled
  else if c.isExpired then .error .deadlineExceeded
  else .ok ()

/-- Whether the call may go on. -/
def isLive (c : CallContext) : Bool := !c.cancelled && !c.isExpired

/-- The context once the call is cancelled. -/
def cancel (c : CallContext) : CallContext := { c with cancelled := true }

/-- The context after some time. -/
def elapse (c : CallContext) (time : Nat) : CallContext := { c with now := c.now + time }

/-- The context with its deadline brought forward to `t`, unless it is earlier already. -/
def withDeadline (c : CallContext) (t : Instant) : CallContext :=
  { c with deadline := some (earlier c.deadline t) }

/-- The context with its deadline brought forward to the end of a timeout that starts now. A timeout
that ends beyond what the clock can count changes nothing. -/
def withTimeout (c : CallContext) (timeout : Nat) : CallContext :=
  if (c.now + timeout).isRepresentable then c.withDeadline (c.now + timeout) else c

/-- A check succeeds in a live context, and only there. -/
theorem check_eq_ok_iff (c : CallContext) : c.check = .ok () ↔ c.isLive := by
  unfold check isLive
  cases c.cancelled <;> cases c.isExpired <;> simp

/-- How a context may change while a call runs: it may become cancelled and time may pass; its
deadline stays. -/
structure Evolves (c d : CallContext) : Prop where
  cancelled : c.cancelled → d.cancelled
  deadline : d.deadline = c.deadline
  now : c.now ≤ d.now

/-- A context that stays as it is evolves. -/
@[refl] theorem Evolves.refl (c : CallContext) : c.Evolves c := ⟨id, rfl, Nat.le_refl _⟩

/-- What evolves twice evolves. -/
theorem Evolves.trans {a b c : CallContext} (h : a.Evolves b) (k : b.Evolves c) : a.Evolves c :=
  ⟨fun x => k.cancelled (h.cancelled x), k.deadline.trans h.deadline, Nat.le_trans h.now k.now⟩

/-- A call may be cancelled. -/
theorem evolves_cancel (c : CallContext) : c.Evolves c.cancel := ⟨fun _ => rfl, rfl, Nat.le_refl _⟩

/-- Time may pass. -/
theorem evolves_elapse (c : CallContext) (t : Nat) : c.Evolves (c.elapse t) :=
  ⟨id, rfl, Nat.le_add_right _ _⟩

/-- A context that may not go on never may again. -/
theorem Evolves.isLive {c d : CallContext} (h : c.Evolves d) (hd : d.isLive) : c.isLive := by
  unfold CallContext.isLive at *
  simp only [Bool.and_eq_true, Bool.not_eq_true'] at *
  refine ⟨?_, ?_⟩
  · cases hc : c.cancelled with
    | false => rfl
    | true => rw [h.cancelled hc] at hd; exact absurd hd.1 (by simp)
  · unfold isExpired at *
    rw [h.deadline] at hd
    cases hdl : c.deadline with
    | none => rfl
    | some t =>
      simp only [hdl, decide_eq_false_iff_not, Nat.not_le] at hd ⊢
      exact Nat.lt_of_le_of_lt h.now hd.2

end CallContext

/-- A context and those derived from it: the flag that they share, and the deadline of each, in the
order in which they were made. -/
structure ContextFamily where
  cancelled : Bool := false
  deadlines : List (Option Instant) := [none]
  deriving DecidableEq, Repr

namespace ContextFamily

/-- What the context with number `i` shows at the moment `now`. -/
def view (f : ContextFamily) (i : Nat) (now : Instant) : CallContext :=
  ⟨f.cancelled, f.deadlines[i]?.join, now⟩

/-- Cancels the contexts, all at once. -/
def cancel (f : ContextFamily) : ContextFamily := { f with cancelled := true }

/-- Derives a context with the deadline of context `i`, which gets the next number. -/
def clone (f : ContextFamily) (i : Nat) : ContextFamily :=
  { f with deadlines := f.deadlines ++ [f.deadlines[i]?.join] }

/-- Brings the deadline of context `i` forward to `t`, unless it is earlier already. -/
def withDeadline (f : ContextFamily) (i : Nat) (t : Instant) : ContextFamily :=
  { f with deadlines := f.deadlines.modify i fun d => some (earlier d t) }

/-- Brings the deadline of context `i` forward to the end of a timeout that starts `now`, if the
clock can count that far. -/
def withTimeout (f : ContextFamily) (i : Nat) (timeout : Nat) (now : Instant) : ContextFamily :=
  if (now + timeout).isRepresentable then f.withDeadline i (now + timeout) else f

end ContextFamily

end SchemaCheck
