import SchemaCheck.Context

/-!
# Contexts derived from one another

What is done to a context and to those derived from it is a list of events, the latest first. An
instant is given on the line of a context when it is given to the context itself, or when it is on
the line of the one that it is derived from by the time when it is derived (`ContextFamily.Given`).
The deadline of a context is the earliest instant on its line (`ContextFamily.earliest_deadline`),
and lines only grow (`ContextFamily.Comes.given`). So deadlines are only brought forward, an instant
matters to the context that it is given to and to those derived from it later and to no other, and a
context in which a check fails stays so, with all that are derived from it
(`ContextFamily.deadlines_tighten`).
-/

namespace SchemaCheck.ContextFamily

/-- What may be done to a context. -/
inductive Act where
  | withTimeout (timeout : Nat)
  | withDeadline (t : Instant)
  | cancel
  | clone

/-- Something that is done to a context of a family. -/
structure Event where
  time : Instant
  /-- The number of the context. -/
  context : Nat
  act : Act

/-- The instant that an event gives to its context. A timeout gives the instant at which it ends, if
the clock can count that far. -/
def Event.instant? (e : Event) : Option Instant :=
  match e.act with
  | .withTimeout timeout =>
    if (e.time + timeout).isRepresentable then some (e.time + timeout) else none
  | .withDeadline t => some t
  | .cancel | .clone => none

/-- The family after one more event. -/
def next (f : ContextFamily) (e : Event) : ContextFamily :=
  match e.act with
  | .withTimeout timeout => f.withTimeout e.context timeout e.time
  | .withDeadline t => f.withDeadline e.context t
  | .cancel => f.cancel
  | .clone => f.clone e.context

/-- What a context shows once something is done to it. -/
def Act.apply : Act → CallContext → CallContext
  | .withTimeout timeout, c => c.withTimeout timeout
  | .withDeadline t, c => c.withDeadline t
  | .cancel, c => c.cancel
  | .clone, c => c

/-- A new context, and those derived from it, after events. -/
def after : List Event → ContextFamily
  | [] => {}
  | e :: es => (after es).next e

/-- The number of contexts after events. -/
def size : List Event → Nat
  | [] => 1
  | ⟨_, _, .clone⟩ :: es => size es + 1
  | _ :: es => size es

/-- Events that are done to contexts which are there by then. -/
def Proper : List Event → Prop
  | [] => True
  | e :: es => e.context < size es ∧ Proper es

/-- Whether one of the contexts was cancelled. -/
def IsCancelled (es : List Event) : Prop := ∃ e ∈ es, e.act = .cancel

/-- The instants on the line of a context: those that are given to it, and those on the line of the
context that it is derived from when it is. -/
inductive Given : List Event → Nat → Instant → Prop where
  | given {e : Event} {es : List Event} {t : Instant} :
      e.instant? = some t → Given (e :: es) e.context t
  | derived {e : Event} {es : List Event} {t : Instant} :
      e.act = .clone → Given es e.context t → Given (e :: es) (size es) t
  | before {e : Event} {es : List Event} {i : Nat} {t : Instant} :
      Given es i t → Given (e :: es) i t

/-- After `es` and then `later`, context `k` is the one that is context `i` after `es`, or it was
derived from it since. -/
inductive Comes (es : List Event) (i : Nat) : List Event → Nat → Prop where
  | same : Comes es i [] i
  | kept {e : Event} {later : List Event} {k : Nat} : Comes es i later k → Comes es i (e :: later) k
  | derived {e : Event} {later : List Event} : e.act = .clone → Comes es i later e.context →
      Comes es i (e :: later) (size (later ++ es))

/-- The earliest of the instants of a kind, where there is one. -/
def IsEarliest (S : Instant → Prop) : Option Instant → Prop
  | none => ∀ t, ¬ S t
  | some d => S d ∧ ∀ t, S t → d ≤ t

/-- The deadline of a context. -/
def deadline (f : ContextFamily) (i : Nat) : Option Instant := f.deadlines[i]?.join

/-- What a check of a context finds at a moment: that one of the contexts was cancelled, or else
that its deadline has come, or else nothing. -/
inductive Finds (es : List Event) (i : Nat) (now : Instant) : Result Unit → Prop where
  | cancelled : IsCancelled es → Finds es i now (.error .cancelled)
  | expired {d : Instant} : ¬ IsCancelled es → (after es).deadline i = some d → d ≤ now →
      Finds es i now (.error .deadlineExceeded)
  | live : ¬ IsCancelled es → (∀ d, (after es).deadline i = some d → now < d) →
      Finds es i now (.ok ())

/-- What holds of the contexts of a family after events, and after any events that follow. -/
structure Tightens (es : List Event) : Prop where
  /-- What is done to a context shows in it as if it were alone. -/
  applied : ∀ e, e.context < size es → (after (e :: es)).view e.context e.time =
    e.act.apply ((after es).view e.context e.time)
  /-- The deadline of a context is the earliest instant on its line. -/
  earliest : ∀ i, i < size es → IsEarliest (Given es i) ((after es).deadline i)
  /-- No context has a later deadline afterwards, nor has one that was derived from it. -/
  tighter : ∀ later, Proper (later ++ es) → ∀ i k, Comes es i later k → i < size es →
    ∀ d, (after es).deadline i = some d → ∃ d', (after (later ++ es)).deadline k = some d' ∧ d' ≤ d
  /-- What is given to a context bears on it and on those derived from it later alone. -/
  own : ∀ e later, Proper (later ++ e :: es) → e.act ≠ .clone → ∀ k, k < size (later ++ es) →
    ¬ Comes es e.context later k →
      (after (later ++ e :: es)).deadline k = (after (later ++ es)).deadline k
  /-- Each context shows whether one of them was cancelled. -/
  shared : ∀ i now, ((after es).view i now).cancelled = true ↔ IsCancelled es
  check : ∀ i now, Finds es i now ((after es).view i now).check
  /-- A check that fails does so ever after, also in what is derived from its context. The fault may
  become that of being cancelled. -/
  lasting : ∀ later, Proper (later ++ es) → ∀ i k, Comes es i later k → i < size es →
    ∀ now now', now ≤ now' → ∀ e, ((after es).view i now).check = .error e →
      ∃ e', ((after (later ++ es)).view k now').check = .error e' ∧
        (e' = e ∨ e = .deadlineExceeded ∧ e' = .cancelled)

variable {es later : List Event} {e : Event} {i k : Nat} {t : Instant} {f : ContextFamily}

/-! ## Numbers of contexts -/

/-- A context that is derived is one more. -/
theorem size_of_clone (h : e.act = .clone) (es : List Event) : size (e :: es) = size es + 1 := by
  obtain ⟨time, context, act⟩ := e
  cases h
  rfl

/-- There are no more contexts when none is derived. -/
theorem size_of_ne (h : e.act ≠ .clone) (es : List Event) : size (e :: es) = size es := by
  obtain ⟨time, context, act⟩ := e
  cases act with
  | clone => exact absurd rfl h
  | withTimeout | withDeadline | cancel => rfl

/-- Contexts never go away. -/
theorem size_le_cons (e : Event) (es : List Event) : size es ≤ size (e :: es) := by
  by_cases h : e.act = .clone
  · rw [size_of_clone h]
    exact Nat.le_succ _
  · exact Nat.le_of_eq (size_of_ne h es).symm

/-- An event that derives no context leaves the numbers of those that are derived later as they
are. -/
theorem size_append_of_ne (h : e.act ≠ .clone) (later es : List Event) :
    size (later ++ e :: es) = size (later ++ es) := by
  induction later with
  | nil => exact size_of_ne h es
  | cons d later ih =>
    by_cases hd : d.act = .clone
    · rw [List.cons_append, List.cons_append, size_of_clone hd, size_of_clone hd, ih]
    · rw [List.cons_append, List.cons_append, size_of_ne hd, size_of_ne hd, ih]

/-- What was done up to some event was done to contexts that were there. -/
theorem Proper.of_append (h : Proper (later ++ es)) : Proper es := by
  induction later with
  | nil => exact h
  | cons d later ih => exact ih h.2

/-- Without an event that derives no context, the others are done to the same contexts. -/
theorem Proper.of_append_cons (h : Proper (later ++ e :: es)) (he : e.act ≠ .clone) :
    Proper (later ++ es) := by
  induction later with
  | nil => exact h.2
  | cons d later ih =>
    obtain ⟨hd, hrest⟩ := h
    exact ⟨size_append_of_ne he later es ▸ hd, ih hrest⟩

/-! ## Lines -/

/-- To give an instant is not to derive. -/
theorem act_ne_clone_of_instant? (h : e.instant? = some t) : e.act ≠ .clone := by
  intro hclone
  simp [Event.instant?, hclone] at h

/-- What one more event adds to a line. -/
theorem given_cons : Given (e :: es) i t ↔ (e.instant? = some t ∧ i = e.context) ∨
    (e.act = .clone ∧ i = size es ∧ Given es e.context t) ∨ Given es i t := by
  constructor
  · intro h
    cases h with
    | given h => exact .inl ⟨h, rfl⟩
    | derived hclone h => exact .inr (.inl ⟨hclone, rfl, h⟩)
    | before h => exact .inr (.inr h)
  · rintro (⟨h, rfl⟩ | ⟨hclone, rfl, h⟩ | h)
    · exact .given h
    · exact .derived hclone h
    · exact .before h

/-- Only contexts that are there have lines. -/
theorem Given.lt (h : Given es i t) (hes : Proper es) : i < size es := by
  induction h with
  | @given e es t h =>
    rw [size_of_ne (act_ne_clone_of_instant? h)]
    exact hes.1
  | @derived e es t hclone h ih =>
    rw [size_of_clone hclone]
    exact Nat.lt_succ_self _
  | @before e es i t h ih => exact Nat.lt_of_lt_of_le (ih hes.2) (size_le_cons e es)

/-- A line goes on in what comes of its context. -/
theorem Comes.given (h : Comes es i later k) (hgiven : Given es i t) : Given (later ++ es) k t := by
  induction h with
  | same => exact hgiven
  | kept _ ih => exact .before ih
  | derived hclone _ ih => exact .derived hclone ih

/-- What comes of a context is there afterwards. -/
theorem Comes.lt (h : Comes es i later k) (hi : i < size es) : k < size (later ++ es) := by
  induction h with
  | same => exact hi
  | @kept e later k _ ih => exact Nat.lt_of_lt_of_le ih (size_le_cons e _)
  | @derived e later hclone _ ih =>
    rw [List.cons_append, size_of_clone hclone]
    exact Nat.lt_succ_self _

/-- What is given to a context is on no line but its own and those that are derived from it
later. -/
theorem given_of_not_comes (he : e.act ≠ .clone) (hk : ¬ Comes es e.context later k) :
    Given (later ++ e :: es) k t ↔ Given (later ++ es) k t := by
  induction later generalizing k with
  | nil =>
    have hother : k ≠ e.context := fun heq => hk (heq ▸ .same)
    rw [List.nil_append, List.nil_append, given_cons]
    simp [he, hother]
  | cons d later ih =>
    have hsame := ih fun h => hk (.kept h)
    rw [List.cons_append, List.cons_append, given_cons, given_cons, hsame,
      size_append_of_ne he later es]
    -- A context that is derived now shares the line of one that does not come of the event's.
    refine or_congr_right (or_congr_left (and_congr_right fun hclone => and_congr_right ?_))
    rintro rfl
    exact ih fun h => hk (.derived hclone h)

/-! ## Deadlines -/

namespace IsEarliest

variable {S S' : Instant → Prop} {o o' : Option Instant} {d : Instant}

/-- The earliest of a kind is that of any kind with the same instants. -/
theorem congr (h : IsEarliest S o) (hS : ∀ t, S' t ↔ S t) : IsEarliest S' o := by
  cases o with
  | none => exact fun t ht => h t ((hS t).1 ht)
  | some d => exact ⟨(hS d).2 h.1, fun t ht => h.2 t ((hS t).1 ht)⟩

/-- There is one earliest instant of a kind, if there is any. -/
theorem unique (h : IsEarliest S o) (h' : IsEarliest S o') : o = o' := by
  cases o with
  | none =>
    cases o' with
    | none => rfl
    | some d => exact absurd h'.1 (h d)
  | some d =>
    cases o' with
    | none => exact absurd h.1 (h' d)
    | some d' => exact congrArg some (Nat.le_antisymm (h.2 d' h'.1) (h'.2 d h.1))

/-- Of the instants of a kind, none is before the earliest. -/
theorem exists_le (h : IsEarliest S o) (ht : S t) : ∃ d, o = some d ∧ d ≤ t := by
  cases o with
  | none => exact absurd ht (h t)
  | some d => exact ⟨d, rfl, h.2 t ht⟩

/-- The earliest instant when there is one more. -/
theorem earlier (h : IsEarliest S o) (t : Instant) :
    IsEarliest (fun u => S u ∨ u = t) (some (SchemaCheck.earlier o t)) := by
  cases o with
  | none =>
    refine ⟨.inr rfl, ?_⟩
    rintro u (hu | rfl)
    · exact absurd hu (h u)
    · exact Nat.le_refl u
  | some d =>
    constructor
    · rcases Nat.le_total d t with hle | hle
      · exact .inl (by rw [SchemaCheck.earlier, Nat.min_eq_left hle]; exact h.1)
      · exact .inr (Nat.min_eq_right hle)
    · rintro u (hu | rfl)
      · exact Nat.le_trans (Nat.min_le_left d t) (h.2 u hu)
      · exact Nat.min_le_right d u

end IsEarliest

/-- A context that is given a deadline has the earlier of this and its own. -/
theorem deadline_withDeadline_self (h : i < f.deadlines.length) (t : Instant) :
    (f.withDeadline i t).deadline i = some (SchemaCheck.earlier (f.deadline i) t) := by
  simp [deadline, withDeadline, h]

/-- To give a context a deadline changes that of no other. -/
theorem deadline_withDeadline_of_ne (h : k ≠ i) (t : Instant) :
    (f.withDeadline i t).deadline k = f.deadline k := by
  simp [deadline, withDeadline, List.getElem?_modify_ne, Ne.symm h]

/-- A derived context starts with the deadline that it is derived with. -/
theorem deadline_clone_new (f : ContextFamily) (i : Nat) :
    (f.clone i).deadline f.deadlines.length = f.deadline i := by
  simp [deadline, clone]

/-- To derive a context changes no deadline that is there. -/
theorem deadline_clone_of_lt (h : k < f.deadlines.length) (i : Nat) :
    (f.clone i).deadline k = f.deadline k := by
  simp [deadline, clone, List.getElem?_append_left h]

/-- What an event does to the deadlines: it brings that of its context forward, or gives that of its
context to a new one, or leaves them as they are. -/
theorem next_cases (f : ContextFamily) (e : Event) :
    (∃ t, e.instant? = some t ∧ f.next e = f.withDeadline e.context t) ∨
    (e.act = .clone ∧ f.next e = f.clone e.context) ∨
    (e.instant? = none ∧ e.act ≠ .clone ∧ (f.next e).deadlines = f.deadlines) := by
  obtain ⟨time, context, act⟩ := e
  cases act with
  | withTimeout timeout =>
    by_cases h : (time + timeout).isRepresentable = true
    · exact .inl ⟨time + timeout, if_pos h, if_pos h⟩
    · refine .inr (.inr ⟨if_neg h, nofun, ?_⟩)
      exact congrArg deadlines (if_neg h)
  | withDeadline t => exact .inl ⟨t, rfl, rfl⟩
  | cancel => exact .inr (.inr ⟨rfl, nofun, rfl⟩)
  | clone => exact .inr (.inl ⟨rfl, rfl⟩)

/-- There is one deadline, or none yet, for each context. -/
theorem length_deadlines (es : List Event) : (after es).deadlines.length = size es := by
  induction es with
  | nil => rfl
  | cons e es ih =>
    rw [after]
    rcases next_cases (after es) e with ⟨t, ht, hnext⟩ | ⟨hclone, hnext⟩ | ⟨-, hclone, hnext⟩
    · rw [hnext, size_of_ne (act_ne_clone_of_instant? ht), ← ih]
      exact List.length_modify _ _ _
    · rw [hnext, size_of_clone hclone, ← ih]
      exact List.length_append
    · rw [hnext, size_of_ne hclone, ih]

/-- The deadline of a context is the earliest instant on its line. -/
theorem earliest_deadline (h : Proper es) (hi : i < size es) :
    IsEarliest (Given es i) ((after es).deadline i) := by
  induction es generalizing i with
  | nil =>
    obtain rfl : i = 0 := Nat.lt_one_iff.1 hi
    exact fun t ht => nomatch ht
  | cons e es ih =>
    obtain ⟨he, hes⟩ := h
    have hlength := length_deadlines es
    rw [after]
    rcases next_cases (after es) e with ⟨t, ht, hnext⟩ | ⟨hclone, hnext⟩ | ⟨hnone, hclone, hnext⟩
    · have hact := act_ne_clone_of_instant? ht
      rw [size_of_ne hact] at hi
      rw [hnext]
      by_cases hsame : i = e.context
      · subst hsame
        rw [deadline_withDeadline_self (hlength ▸ he)]
        refine ((ih hes he).earlier t).congr fun u => ?_
        rw [given_cons, ht]
        simp [hact, or_comm, eq_comm]
      · rw [deadline_withDeadline_of_ne hsame]
        exact (ih hes hi).congr fun u => by simp [given_cons, hsame, hact]
    · rw [size_of_clone hclone] at hi
      rw [hnext]
      by_cases hnew : i = size es
      · have hfresh : ∀ u, ¬ Given es (size es) u := fun u hu => Nat.lt_irrefl _ (hu.lt hes)
        subst hnew
        rw [← hlength, deadline_clone_new]
        refine (ih hes he).congr fun u => ?_
        rw [hlength, given_cons]
        simp [hclone, hfresh, Event.instant?]
      -- the others have the line that they had
      · have hold : i < size es := by omega
        rw [deadline_clone_of_lt (hlength ▸ hold)]
        exact (ih hes hold).congr fun u => by simp [given_cons, hnew, hclone, Event.instant?]
    · rw [size_of_ne hclone] at hi
      have hsame : ((after es).next e).deadline i = (after es).deadline i :=
        congrArg (fun ds => (ds[i]?).join) hnext
      rw [hsame]
      exact (ih hes hi).congr fun u => by simp [given_cons, hnone, hclone]

/-- What is done to a context shows in it as if it were alone. -/
theorem view_next (h : e.context < f.deadlines.length) :
    (f.next e).view e.context e.time = e.act.apply (f.view e.context e.time) := by
  obtain ⟨time, context, act⟩ := e
  have hdeadline : ∀ t, (f.withDeadline context t).view context time =
      (f.view context time).withDeadline t := fun t =>
    congrArg (CallContext.mk f.cancelled · time) (deadline_withDeadline_self h t)
  cases act with
  | withTimeout timeout =>
    show (f.withTimeout context timeout time).view context time =
      (f.view context time).withTimeout timeout
    by_cases hcount : (time + timeout).isRepresentable = true
    · rw [withTimeout, if_pos hcount, hdeadline, CallContext.withTimeout]
      exact (if_pos hcount).symm
    · rw [withTimeout, if_neg hcount, CallContext.withTimeout]
      exact (if_neg hcount).symm
  | withDeadline t => exact hdeadline t
  | cancel => rfl
  | clone => exact congrArg (CallContext.mk f.cancelled · time) (deadline_clone_of_lt h context)

/-! ## Checks -/

/-- The family is cancelled just when one of its contexts was. -/
theorem cancelled_after (es : List Event) : (after es).cancelled = true ↔ IsCancelled es := by
  induction es with
  | nil => simp [after, IsCancelled]
  | cons e es ih =>
    have hcons : IsCancelled (e :: es) ↔ e.act = .cancel ∨ IsCancelled es := by
      simp [IsCancelled]
    rw [hcons, ← ih, after]
    obtain ⟨time, context, act⟩ := e
    cases act with
    | withTimeout timeout =>
      simp only [next, withTimeout]
      split <;> simp [withDeadline]
    | withDeadline t => simp [next, withDeadline]
    | cancel => simp [next, cancel]
    | clone => simp [next, clone]

/-- What was cancelled stays so. -/
theorem IsCancelled.append (h : IsCancelled es) (later : List Event) :
    IsCancelled (later ++ es) := by
  obtain ⟨e, he, hcancel⟩ := h
  exact ⟨e, List.mem_append_right later he, hcancel⟩

/-- A check of a context finds what the events say. -/
theorem finds_check (es : List Event) (i : Nat) (now : Instant) :
    Finds es i now ((after es).view i now).check := by
  by_cases hcancelled : IsCancelled es
  · have hcheck : ((after es).view i now).check = .error .cancelled :=
      if_pos ((cancelled_after es).2 hcancelled)
    rw [hcheck]
    exact .cancelled hcancelled
  have hcheck : ((after es).view i now).check = if ((after es).view i now).isExpired then
      .error .deadlineExceeded else .ok () :=
    if_neg fun h => hcancelled ((cancelled_after es).1 h)
  rw [hcheck]
  cases hdeadline : (after es).deadline i with
  | none =>
    have hlive : ((after es).view i now).isExpired = false := by
      rw [CallContext.isExpired, show ((after es).view i now).deadline = none from hdeadline]
    rw [hlive]
    exact .live hcancelled fun d hd => nomatch hdeadline.symm.trans hd
  | some d =>
    have hexpired : ((after es).view i now).isExpired = decide (d ≤ now) := by
      rw [CallContext.isExpired, show ((after es).view i now).deadline = some d from hdeadline]
      rfl
    rw [hexpired]
    by_cases hd : d ≤ now
    · rw [decide_eq_true hd]
      exact .expired hcancelled hdeadline hd
    · rw [decide_eq_false hd]
      refine .live hcancelled fun d' hd' => ?_
      obtain rfl : d = d' := Option.some.inj (hdeadline.symm.trans hd')
      exact Nat.not_le.1 hd

/-- No context gets a later deadline, nor does one that comes of it. -/
theorem exists_deadline_le (h : Proper (later ++ es)) (hi : i < size es)
    (hcomes : Comes es i later k) {d : Instant} (hd : (after es).deadline i = some d) :
    ∃ d', (after (later ++ es)).deadline k = some d' ∧ d' ≤ d := by
  have hgiven : Given es i d := by
    have hearliest := earliest_deadline h.of_append hi
    rw [hd] at hearliest
    exact hearliest.1
  exact (earliest_deadline h (hcomes.lt hi)).exists_le (hcomes.given hgiven)

/-- A check that fails does so ever after, in all that comes of its context. -/
theorem lasting_check (h : Proper (later ++ es)) (hi : i < size es) (hcomes : Comes es i later k)
    {now now' : Instant} (hnow : now ≤ now') {fault : Fault}
    (hfails : ((after es).view i now).check = .error fault) :
    ∃ fault', ((after (later ++ es)).view k now').check = .error fault' ∧
      (fault' = fault ∨ fault = .deadlineExceeded ∧ fault' = .cancelled) := by
  have hbefore := finds_check es i now
  have hafter := finds_check (later ++ es) k now'
  rw [hfails] at hbefore
  generalize ((after (later ++ es)).view k now').check = verdict at hafter ⊢
  cases hbefore with
  | cancelled hcancelled =>
    have hstill := hcancelled.append later
    cases hafter with
    | cancelled _ => exact ⟨_, rfl, .inl rfl⟩
    | expired hnot _ _ | live hnot _ => exact absurd hstill hnot
  | @expired d _ hd hdue =>
    obtain ⟨d', hd', hle⟩ := exists_deadline_le h hi hcomes hd
    cases hafter with
    | cancelled _ => exact ⟨_, rfl, .inr ⟨rfl, rfl⟩⟩
    | expired _ _ _ => exact ⟨_, rfl, .inl rfl⟩
    | live _ hlive =>
      have hdue' : d' ≤ now' := Nat.le_trans hle (Nat.le_trans hdue hnow)
      exact absurd (hlive d' hd') (Nat.not_lt.2 hdue')

/-- Whatever is done to a context and to those derived from it: the deadline of each is the earliest
instant on its line, so that it is only ever brought forward; cancelling one cancels all, while what
is given to one matters to it and to those derived from it later alone; and a context in which a
check fails stays so, with all that is derived from it. -/
theorem deadlines_tighten (h : Proper es) : Tightens es where
  applied e he := view_next ((length_deadlines es).symm ▸ he)
  earliest _ hi := earliest_deadline h hi
  tighter _ hproper _ _ hcomes hi _ hd := exists_deadline_le hproper hi hcomes hd
  own e later hproper hact k hk hcomes := by
    have hk' : k < size (later ++ e :: es) := (size_append_of_ne hact later es).symm ▸ hk
    have hearliest := earliest_deadline (hproper.of_append_cons hact) hk
    exact (earliest_deadline hproper hk').unique
      (hearliest.congr fun t => given_of_not_comes hact hcomes)
  shared i now := cancelled_after es
  check i now := finds_check es i now
  lasting _ hproper _ _ hcomes hi _ _ hnow _ hfails := lasting_check hproper hi hcomes hnow hfails

/-- `deadlines_tighten` for a context with a timeout of ten that was copied before it got one of
five. The copy keeps the later deadline, which has come by twelve. -/
theorem deadlines_tighten_copy :
    let es : List Event := [⟨3, 0, .withTimeout 5⟩, ⟨2, 0, .clone⟩, ⟨1, 0, .withTimeout 10⟩]
    Proper es ∧ Tightens es ∧ (after es).deadline 0 = some 8 ∧ (after es).deadline 1 = some 11 ∧
      ((after es).view 1 12).check = .error .deadlineExceeded :=
  have h : Proper [⟨3, 0, .withTimeout 5⟩, ⟨2, 0, .clone⟩, ⟨1, 0, .withTimeout 10⟩] :=
    ⟨by decide, by decide, by decide, trivial⟩
  ⟨h, deadlines_tighten h, by decide, by decide, rfl⟩

end SchemaCheck.ContextFamily
