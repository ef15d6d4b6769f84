import SchemaCheck.Proofs.Activity.Runs
import SchemaCheck.Walk

/-!
# The visits of a walk

What a walk over files does, visit by visit (`Walks`): file by file, with a look at the context
before each, and in a file item by item, up to the first visit that fails. Every walk goes some such
way (`exists_walks`). Whether files, messages or fields are visited, a walk stops where it must
(`Handler.walks_stop`): after a visit that fails, and when the call is cancelled at the end of the
file that is being visited.
-/

namespace SchemaCheck

variable {ω α : Type}

/-- One visit: the item, the context that it came in, what was handed out, how it ended and the
context that it left. -/
structure Visit (ω α : Type) where
  item : α
  before : CallContext
  given : List ω
  result : Result Unit
  after : CallContext

/-- From the first context items are visited one after another, up to the first visit that fails. -/
inductive Visits (visit : α → Activity ω Unit) :
    List α → CallContext → List (Visit ω α) → Result Unit → CallContext → Prop where
  | nil (c : CallContext) : Visits visit [] c [] (.ok ()) c
  | next {a : α} {as : List α} {c d d' : CallContext} {given : List ω} {vs : List (Visit ω α)}
      {result : Result Unit} : (visit a).Runs c given (.ok ()) d → Visits visit as d vs result d' →
        Visits visit (a :: as) c (⟨a, c, given, .ok (), d⟩ :: vs) result d'
  | fails {a : α} {as : List α} {c d : CallContext} {given : List ω} {e : Fault} :
      (visit a).Runs c given (.error e) d →
        Visits visit (a :: as) c [⟨a, c, given, .error e, d⟩] (.error e) d

/-- From the first context files are walked over: imports are left out, and the items of another
file are visited unless the call is over when it is reached. -/
inductive Walks (visit : α → Activity ω Unit) (items : SchemaFile → List α) :
    List SchemaFile → CallContext → List (Visit ω α) → Result Unit → CallContext → Prop where
  | nil (c : CallContext) : Walks visit items [] c [] (.ok ()) c
  | skip {f : SchemaFile} {fs : List SchemaFile} {c d : CallContext} {vs : List (Visit ω α)}
      {result : Result Unit} : f.isImport = true → Walks visit items fs c vs result d →
        Walks visit items (f :: fs) c vs result d
  | enter {f : SchemaFile} {fs : List SchemaFile} {c d d' : CallContext}
      {vs ws : List (Visit ω α)} {result : Result Unit} : f.isImport = false → c.isLive →
        Visits visit (items f) c vs (.ok ()) d → Walks visit items fs d ws result d' →
        Walks visit items (f :: fs) c (vs ++ ws) result d'
  | fails {f : SchemaFile} {fs : List SchemaFile} {c d : CallContext} {vs : List (Visit ω α)}
      {e : Fault} : f.isImport = false → c.isLive → Visits visit (items f) c vs (.error e) d →
        Walks visit items (f :: fs) c vs (.error e) d
  | late {f : SchemaFile} {fs : List SchemaFile} {c : CallContext} {e : Fault} :
      f.isImport = false → c.check = .error e → Walks visit items (f :: fs) c [] (.error e) c

/-- All that there is to visit, in order: the items of the files that are no imports. -/
def toVisit (items : SchemaFile → List α) (files : List SchemaFile) : List α :=
  (files.filter fun f => !f.isImport).flatMap items

/-- What comes of a walk over files in a call that was cancelled: a fault, if there is a file to
enter. -/
def cancelledBefore (files : List SchemaFile) : Result Unit :=
  if ∃ f ∈ files, f.isImport = false then .error .cancelled else .ok ()

section

variable {items : SchemaFile → List α} {f : SchemaFile} {files : List SchemaFile}

/-- Imports are not visited. -/
theorem toVisit_cons_import (h : f.isImport = true) :
    toVisit items (f :: files) = toVisit items files := by
  simp [toVisit, h]

/-- A file that is no import is visited before the others. -/
theorem toVisit_cons (h : f.isImport = false) :
    toVisit items (f :: files) = items f ++ toVisit items files := by
  simp [toVisit, h]

/-- An import is not entered, so a walk that was cancelled goes on past it. -/
theorem cancelledBefore_cons_import (h : f.isImport = true) :
    cancelledBefore (f :: files) = cancelledBefore files := by
  simp [cancelledBefore, h]

/-- A walk that was cancelled fails at the first file that it would enter. -/
theorem cancelledBefore_cons (h : f.isImport = false) :
    cancelledBefore (f :: files) = .error .cancelled := by
  simp [cancelledBefore, h]

end

/-! ## Every walk goes some way -/

/-- A loop over items makes some visits, and what it hands out is what they do. -/
theorem exists_visits (visit : α → Activity ω Unit) (as : List α) (c : CallContext) :
    ∃ vs result d, Visits visit as c vs result d ∧
      (Activity.forEach visit as).Runs c (vs.flatMap Visit.given) result d := by
  induction as generalizing c with
  | nil => exact ⟨[], .ok (), c, .nil c, .done _ c⟩
  | cons a as ih =>
    obtain ⟨given, result, d, ha⟩ := Activity.exists_runs (visit a) c
    cases result with
    | ok u =>
      obtain ⟨vs, result, d', hvs, hruns⟩ := ih d
      exact ⟨_, result, d', .next ha hvs, ha.bind hruns⟩
    | error e =>
      refine ⟨_, .error e, d, .fails ha, ?_⟩
      rw [List.flatMap_singleton]
      exact ha.bind_error

/-- A walk over files makes some visits, and what it hands out is what they do. -/
theorem exists_walks (visit : α → Activity ω Unit) (items : SchemaFile → List α)
    (files : List SchemaFile) (c : CallContext) :
    ∃ vs result d, Walks visit items files c vs result d ∧
      (walkFiles (fun f => Activity.forEach visit (items f)) files).Runs c
        (vs.flatMap Visit.given) result d := by
  induction files generalizing c with
  | nil => exact ⟨[], .ok (), c, .nil c, .done _ c⟩
  | cons f files ih =>
    rw [walkFiles]
    cases himport : f.isImport with
    | true =>
      obtain ⟨vs, result, d, hwalks, hruns⟩ := ih c
      exact ⟨vs, result, d, .skip himport hwalks, hruns⟩
    | false =>
      cases hcheck : c.check with
      | error e =>
        refine ⟨[], .error e, c, .late himport hcheck, .bind_error (.observe ?_)⟩
        rw [hcheck]
        exact .done _ c
      | ok u =>
        have hlive := (CallContext.check_eq_ok_iff c).1 hcheck
        obtain ⟨vs, result, d, hvisits, hfile⟩ := exists_visits visit (items f) c
        cases result with
        | ok u =>
          obtain ⟨ws, result, d', hwalks, hrest⟩ := ih d
          refine ⟨vs ++ ws, result, d', .enter himport hlive hvisits hwalks, ?_⟩
          rw [List.flatMap_append]
          exact .check_bind hlive (hfile.bind hrest)
        | error e =>
          exact ⟨vs, .error e, d, .fails himport hlive hvisits, .check_bind hlive hfile.bind_error⟩

/-! ## The visits of one file -/

namespace Visits

variable {visit : α → Activity ω Unit} {as : List α} {c d : CallContext} {vs : List (Visit ω α)}
  {result : Result Unit}

/-- The items that are visited are the first of all. -/
theorem map_item_prefix (h : Visits visit as c vs result d) : vs.map Visit.item <+: as := by
  induction h with
  | nil => exact List.prefix_rfl
  | next _ _ ih => exact List.cons_prefix_cons.2 ⟨rfl, ih⟩
  | fails => exact List.cons_prefix_cons.2 ⟨rfl, List.nil_prefix⟩

/-- Without a failure all items are visited, and no visit fails. -/
theorem of_ok (h : Visits visit as c vs (.ok ()) d) :
    vs.map Visit.item = as ∧ ∀ v ∈ vs, v.result = .ok () := by
  generalize hok : (.ok () : Result Unit) = result at h
  induction h with
  | nil => exact ⟨rfl, fun _ h => absurd h List.not_mem_nil⟩
  | next _ _ ih =>
    obtain ⟨hitems, hresults⟩ := ih hok
    exact ⟨congrArg _ hitems, List.forall_mem_cons.2 ⟨hok.symm ▸ rfl, hok ▸ hresults⟩⟩
  | fails => cases hok

/-- A failure is that of the last visit. -/
theorem of_error {e : Fault} (h : Visits visit as c vs (.error e) d) :
    ∃ before v, vs = before ++ [v] ∧ (∀ w ∈ before, w.result = .ok ()) ∧ v.result = .error e := by
  generalize herror : (.error e : Result Unit) = result at h
  induction h with
  | nil => cases herror
  | next _ _ ih =>
    obtain ⟨before, v, rfl, hbefore, hv⟩ := ih herror
    exact ⟨_ :: before, v, rfl, List.forall_mem_cons.2 ⟨rfl, hbefore⟩, hv⟩
  | fails =>
    cases herror
    exact ⟨[], _, rfl, fun _ h => absurd h List.not_mem_nil, rfl⟩

/-- When no visit fails, all is well in the end. -/
theorem eq_ok (h : Visits visit as c vs result d) (hok : ∀ v ∈ vs, v.result = .ok ()) :
    result = .ok () := by
  cases result with
  | ok => rfl
  | error e =>
    obtain ⟨before, v, rfl, -, hv⟩ := h.of_error
    have hv' := hok v (List.mem_append_right _ List.mem_cons_self)
    cases hv.symm.trans hv'

/-- Contexts evolve from visit to visit. -/
theorem evolves (h : Visits visit as c vs result d) :
    c.Evolves d ∧ ∀ v ∈ vs, c.Evolves v.before ∧ v.after.Evolves d := by
  induction h with
  | nil c => exact ⟨.refl c, fun _ h => absurd h List.not_mem_nil⟩
  | next hruns _ ih =>
    obtain ⟨hevolves, hvs⟩ := ih
    refine ⟨hruns.evolves.trans hevolves, List.forall_mem_cons.2 ⟨⟨.refl _, hevolves⟩, ?_⟩⟩
    exact fun v hv => ⟨hruns.evolves.trans (hvs v hv).1, (hvs v hv).2⟩
  | fails hruns =>
    refine ⟨hruns.evolves, List.forall_mem_cons.2 ⟨⟨.refl _, .refl _⟩, ?_⟩⟩
    exact fun _ h => absurd h List.not_mem_nil

/-- Visits that do not cancel the call leave it uncancelled. -/
theorem cancelled_eq_false (h : Visits visit as c vs result d) (hc : c.cancelled = false)
    (hsteady : ∀ v ∈ vs, v.after.cancelled = false) : d.cancelled = false := by
  induction h with
  | nil => exact hc
  | next _ _ ih =>
    obtain ⟨ha, hrest⟩ := List.forall_mem_cons.1 hsteady
    exact ih ha hrest
  | fails => exact hsteady _ List.mem_cons_self

end Visits

/-! ## The visits of all files -/

namespace Walks

variable {visit : α → Activity ω Unit} {items : SchemaFile → List α} {files : List SchemaFile}
  {c d : CallContext} {vs : List (Visit ω α)} {result : Result Unit}

/-- The items that are visited are the first of all that there are to visit. -/
theorem map_item_prefix (h : Walks visit items files c vs result d) :
    vs.map Visit.item <+: toVisit items files := by
  induction h with
  | nil | late => exact List.nil_prefix
  | skip himport _ ih => rwa [toVisit_cons_import himport]
  | enter himport _ hvisits _ ih =>
    rw [toVisit_cons himport, List.map_append, hvisits.of_ok.1]
    exact (List.prefix_append_right_inj _).2 ih
  | fails himport _ hvisits =>
    rw [toVisit_cons himport]
    exact hvisits.map_item_prefix.trans (List.prefix_append _ _)

/-- Either no visit fails, or the last one does, and its fault is that of the walk. -/
theorem failure_cases (h : Walks visit items files c vs result d) :
    (∀ v ∈ vs, v.result = .ok ()) ∨ ∃ before v e, vs = before ++ [v] ∧
      (∀ w ∈ before, w.result = .ok ()) ∧ v.result = .error e ∧ result = .error e := by
  induction h with
  | nil | late => exact .inl fun _ h => absurd h List.not_mem_nil
  | skip _ _ ih => exact ih
  | @enter _ _ _ _ _ vs _ _ _ _ hvisits _ ih =>
    have hvs := hvisits.of_ok.2
    rcases ih with hws | ⟨before, v, e, rfl, hbefore, hv, hresult⟩
    · exact .inl (List.forall_mem_append.2 ⟨hvs, hws⟩)
    · exact .inr ⟨vs ++ before, v, e, (List.append_assoc ..).symm,
        List.forall_mem_append.2 ⟨hvs, hbefore⟩, hv, hresult⟩
  | fails _ _ hvisits =>
    obtain ⟨before, v, hvs, hbefore, hv⟩ := hvisits.of_error
    exact .inr ⟨before, v, _, hvs, hbefore, hv, rfl⟩

/-- In a call that was cancelled nothing is visited. -/
theorem of_cancelled (h : Walks visit items files c vs result d) (hc : c.cancelled = true) :
    vs = [] ∧ result = cancelledBefore files := by
  have hdead : ¬ c.isLive := by simp [CallContext.isLive, hc]
  induction h with
  | nil => exact ⟨rfl, rfl⟩
  | skip himport _ ih =>
    rw [cancelledBefore_cons_import himport]
    exact ih hc hdead
  | enter _ hlive | fails _ hlive => exact absurd hlive hdead
  | late himport hcheck =>
    rw [cancelledBefore_cons himport, ← hcheck, CallContext.check, if_pos hc]
    exact ⟨rfl, rfl⟩

/-- When the call is cancelled once a visit is done, and no visit fails, the rest of the file is
visited and nothing after it. -/
theorem of_cancelling (h : Walks visit items files c vs result d)
    (hok : ∀ v ∈ vs, v.result = .ok ()) {v : Visit ω α} (hv : v ∈ vs)
    (hafter : v.after.cancelled = true) :
    ∃ done f rest, files = done ++ f :: rest ∧ f.isImport = false ∧ v.item ∈ items f ∧
      vs.map Visit.item = toVisit items (done ++ [f]) ∧ result = cancelledBefore rest := by
  induction h with
  | nil | late => exact absurd hv List.not_mem_nil
  | @skip f _ _ _ _ _ himport _ ih =>
    obtain ⟨done, g, rest, rfl, hg, hitem, hmap, hresult⟩ := ih hok hv
    refine ⟨f :: done, g, rest, rfl, hg, hitem, ?_, hresult⟩
    rw [hmap, List.cons_append, toVisit_cons_import himport]
  | @enter f fs c d d' vs ws result himport hlive hvisits hwalks ih =>
    obtain ⟨hmapf, -⟩ := hvisits.of_ok
    rcases List.mem_append.1 hv with hvf | hvrest
    · -- nothing is visited after this file, as the call was cancelled in it
      have hd : d.cancelled = true := (hvisits.evolves.2 v hvf).2.cancelled hafter
      obtain ⟨rfl, hresult⟩ := hwalks.of_cancelled hd
      refine ⟨[], f, fs, rfl, himport, ?_, ?_, hresult⟩
      · rw [← hmapf]
        exact List.mem_map_of_mem hvf
      · rw [List.append_nil, hmapf, List.nil_append, toVisit_cons himport]
        exact (List.append_nil _).symm
    · obtain ⟨done, g, rest, rfl, hg, hitem, hmap, hresult⟩ :=
        ih (fun w hw => hok w (List.mem_append_right _ hw)) hvrest
      refine ⟨f :: done, g, rest, rfl, hg, hitem, ?_, hresult⟩
      rw [List.map_append, hmapf, hmap, List.cons_append, toVisit_cons himport]
  | fails _ _ hvisits => cases hvisits.eq_ok hok

/-- A walk in which no visit fails and none cancels the call visits all that there is, unless the
deadline comes before. -/
theorem of_steady (h : Walks visit items files c vs result d) (hc : c.cancelled = false)
    (hok : ∀ v ∈ vs, v.result = .ok ()) (hsteady : ∀ v ∈ vs, v.after.cancelled = false) :
    (result = .ok () ∧ vs.map Visit.item = toVisit items files) ∨
      (result = .error .deadlineExceeded ∧ d.isExpired = true) := by
  induction h with
  | nil => exact .inl ⟨rfl, rfl⟩
  | skip himport _ ih =>
    rw [toVisit_cons_import himport]
    exact ih hc hok hsteady
  | enter himport _ hvisits _ ih =>
    obtain ⟨hokf, hokrest⟩ := List.forall_mem_append.1 hok
    obtain ⟨hsteadyf, hsteadyrest⟩ := List.forall_mem_append.1 hsteady
    rw [toVisit_cons himport, List.map_append, hvisits.of_ok.1]
    exact (ih (hvisits.cancelled_eq_false hc hsteadyf) hokrest hsteadyrest).imp_left
      fun ⟨hresult, hmap⟩ => ⟨hresult, congrArg _ hmap⟩
  | fails _ _ hvisits => cases hvisits.eq_ok hok
  | @late _ _ c e _ hcheck =>
    unfold CallContext.check at hcheck
    rw [hc, if_neg Bool.false_ne_true] at hcheck
    cases hexpired : c.isExpired with
    | true =>
      rw [hexpired, if_pos rfl] at hcheck
      exact .inr ⟨hcheck.symm ▸ rfl, rfl⟩
    | false =>
      rw [hexpired, if_neg Bool.false_ne_true] at hcheck
      cases hcheck

end Walks

/-! ## Where a walk stops -/

/-- What it means that a walk over files, with the given visits and result, stops where it must. -/
structure StopsInPlace (items : SchemaFile → List α) (files : List SchemaFile) (c : CallContext)
    (vs : List (Visit ω α)) (result : Result Unit) : Prop where
  /-- The items are visited in order, up to some item. -/
  inOrder : vs.map Visit.item <+: toVisit items files
  /-- A visit that fails is the last, and its fault is the fault of the walk. -/
  atFailure : ∀ v ∈ vs, ∀ e, v.result = .error e →
    (∃ before, vs = before ++ [v]) ∧ result = .error e
  /-- When no visit fails, but one leaves the call cancelled, the file that it is in is visited to
  its end, no later one is, and the walk fails just when there is a later file to enter. -/
  atCancel : (∀ v ∈ vs, v.result = .ok ()) → ∀ v ∈ vs, v.after.cancelled = true →
    ∃ done f rest, files = done ++ f :: rest ∧ f.isImport = false ∧ v.item ∈ items f ∧
      vs.map Visit.item = toVisit items (done ++ [f]) ∧ result = cancelledBefore rest
  /-- In a call that was cancelled before nothing is visited, and the walk fails just when there is
  a file to enter. -/
  atStart : c.cancelled = true → vs = [] ∧ result = cancelledBefore files

/-- Whatever context a walk over files starts in, its visits are those of the items, one after
another, and it stops where it must. -/
def StopsAlways (walk : Activity ω Unit) (visit : α → Activity ω Unit)
    (items : SchemaFile → List α) (files : List SchemaFile) : Prop :=
  ∀ c, ∃ vs result d, walk.Runs c (vs.flatMap Visit.given) result d ∧
    Walks visit items files c vs result d ∧ StopsInPlace items files c vs result

/-- The visits of a walk stop where they must. -/
theorem Walks.stopsInPlace {visit : α → Activity ω Unit} {items : SchemaFile → List α}
    {files : List SchemaFile} {c d : CallContext} {vs : List (Visit ω α)} {result : Result Unit}
    (h : Walks visit items files c vs result d) : StopsInPlace items files c vs result where
  inOrder := h.map_item_prefix
  atFailure v hv e he := by
    rcases h.failure_cases with hok | ⟨before, w, e', rfl, hbefore, hw, hresult⟩
    · cases he.symm.trans (hok v hv)
    · rcases List.mem_append.1 hv with hv | hv
      · cases he.symm.trans (hbefore v hv)
      · obtain rfl := List.mem_singleton.1 hv
        cases he.symm.trans hw
        exact ⟨⟨before, rfl⟩, hresult⟩
  atCancel hok _ hv hafter := h.of_cancelling hok hv hafter
  atStart hc := h.of_cancelled hc

/-- A walk over files stops where it must, in every context. -/
theorem walkFiles_stopsAlways (visit : α → Activity ω Unit) (items : SchemaFile → List α)
    (files : List SchemaFile) :
    StopsAlways (walkFiles (fun f => Activity.forEach visit (items f)) files) visit items
      files := by
  intro c
  obtain ⟨vs, result, d, hwalks, hruns⟩ := exists_walks visit items files c
  exact ⟨vs, result, d, hruns, hwalks, hwalks.stopsInPlace⟩

/-- To visit one item and then to be done is to visit it. -/
theorem Activity.forEach_singleton (visit : α → Activity ω Unit) (a : α) :
    forEach visit [a] = visit a := by
  show (visit a).bind (fun _ => .done (.ok ())) = visit a
  induction visit a with
  | done result => cases result <;> rfl
  | emit item next ih => exact congrArg (Activity.emit item) ih
  | cancel next ih => exact congrArg Activity.cancel ih
  | elapse t next ih => exact congrArg (Activity.elapse t) ih
  | observe next ih => exact congrArg Activity.observe (funext ih)

/-- Rules that look at each file, at each message or at each field stop where they must, whatever
their visits do. -/
theorem Handler.walks_stop (id : String) (r : Request) :
    (∀ visit : String → Request → SchemaFile → Activity Draft Unit,
      StopsAlways (forEachFile visit id r) (visit id r) (fun f => [f]) r.files) ∧
    (∀ visit : String → Request → MessageItem → Activity Draft Unit,
      StopsAlways (forEachMessage visit id r) (visit id r) (fun f => f.descriptor.allMessages)
        r.files) ∧
    ∀ visit : String → Request → FieldItem → Activity Draft Unit,
      StopsAlways (forEachField visit id r) (visit id r) (fun f => f.descriptor.allFields)
        r.files := by
  refine ⟨fun visit => ?_, fun visit => walkFiles_stopsAlways _ _ _,
    fun visit => walkFiles_stopsAlways _ _ _⟩
  have hfiles := walkFiles_stopsAlways (visit id r) (fun f => [f]) r.files
  simp only [Activity.forEach_singleton] at hfiles
  exact hfiles

end SchemaCheck
