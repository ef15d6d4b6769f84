import SchemaCheck.Message.Check
import SchemaCheck.Proofs.Finding.Order

/-!
# What a collector makes of drafts

The findings of a collector are those of the drafts that it accepts, its faults those of the drafts
that it refuses (`Collector.addAll_eq`). So it gives a response just when the request admits every
draft (`Collector.finish_addAll_eq_ok_iff`), and what of the response is sent is the sorted form of
what the drafts say (`Collector.entries_of_finish`). A finding that was sent and is taken in again,
for the same files, is the same finding (`Collector.resolve_ofEntry`).
-/

namespace SchemaCheck

/-- What a draft of a rule says, whatever the files. -/
def Draft.entry (ruleId : String) (d : Draft) : FindingEntry :=
  ⟨ruleId, d.message, d.current.place?, d.against.place?⟩

namespace Target

/-- A target at a place names that place. -/
@[simp] theorem place?_ofPlace (p : Option Place) : (ofPlace p).place? = p := by
  cases p <;> rfl

/-- A target at a place is given in one way only. -/
@[simp] theorem check_ofPlace (p : Option Place) (side : String) :
    (ofPlace p).check side = .ok () := by
  cases p <;> rfl

/-- The location of a target is at the place that the target names. -/
theorem place_of_locate {t : Target} {files : List SchemaFile} {l : Option Location}
    (h : t.locate files = .ok l) : l.map Location.place = t.place? := by
  unfold locate at h
  cases hp : t.place? with
  | none =>
    rw [hp] at h
    cases h
    rfl
  | some p =>
    rw [hp] at h
    cases hf : findFile files p.fileName with
    | none => simp [hf] at h
    | some f =>
      have hl : some (Location.mk f p.path) = l := by simpa [hf] using h
      have hname : f.name = p.fileName := by simpa using List.find?_some hf
      subst hl
      simp [Location.place, hname]

/-- The place of a location is located where the location is. -/
theorem locate_ofPlace {t : Target} {files : List SchemaFile} {l : Option Location}
    (h : t.locate files = .ok l) : (ofPlace (l.map Location.place)).locate files = .ok l := by
  have hp := place_of_locate h
  unfold locate at h ⊢
  rw [place?_ofPlace, hp]
  exact h

end Target

/-- The entry of a draft that was made of an entry is that entry. -/
@[simp] theorem Draft.entry_ofEntry (e : FindingEntry) : (Draft.ofEntry e).entry e.ruleId = e := by
  simp [Draft.entry, Draft.ofEntry]

namespace Collector

variable {files againstFiles : List SchemaFile} {ruleId : String} {d : Draft} {f : Finding}

/-- What is true of a draft that makes a finding. -/
theorem resolve_eq_ok_iff : resolve files againstFiles ruleId d = .ok f ↔
    d.current.check "" = .ok () ∧ d.against.check "against " = .ok () ∧
    d.current.locate files = .ok f.location ∧ d.against.locate againstFiles = .ok f.against ∧
    Identifier.isWellFormed .rule ruleId ∧ f.ruleId = ruleId ∧ f.message = d.message := by
  rw [← Identifier.check_eq_ok_iff]
  unfold resolve Finding.make?
  obtain ⟨fid, fmessage, flocation, fagainst⟩ := f
  cases d.current.check "" with
  | error e => simp [bind, Except.bind]
  | ok u =>
  cases d.against.check "against " with
  | error e => simp [bind, Except.bind]
  | ok v =>
  cases d.current.locate files with
  | error e => simp [bind, Except.bind]
  | ok location =>
  cases d.against.locate againstFiles with
  | error e => simp [bind, Except.bind]
  | ok against =>
  cases Identifier.check .rule ruleId with
  | error e => simp [bind, Except.bind]
  | ok w =>
    simp only [bind, Except.bind, pure, Except.pure, Except.ok.injEq, Finding.mk.injEq, true_and]
    constructor
    · rintro ⟨rfl, rfl, rfl, rfl⟩
      exact ⟨rfl, rfl, rfl, rfl⟩
    · rintro ⟨rfl, rfl, rfl, rfl⟩
      exact ⟨rfl, rfl, rfl, rfl⟩

/-- A finding says what its draft says. -/
theorem entry_of_resolve (h : resolve files againstFiles ruleId d = .ok f) :
    f.entry = d.entry ruleId := by
  obtain ⟨-, -, hl, ha, -, hid, hm⟩ := resolve_eq_ok_iff.1 h
  rw [Finding.entry, Draft.entry, Target.place_of_locate hl, Target.place_of_locate ha, hid, hm]

/-- A finding that was sent makes the same finding again. -/
theorem resolve_ofEntry (h : resolve files againstFiles ruleId d = .ok f) :
    resolve files againstFiles f.ruleId (Draft.ofEntry f.entry) = .ok f := by
  obtain ⟨-, -, hl, ha, hw, hid, -⟩ := resolve_eq_ok_iff.1 h
  refine resolve_eq_ok_iff.2 ⟨?_, ?_, ?_, ?_, ?_, rfl, rfl⟩
  · exact Target.check_ofPlace _ _
  · exact Target.check_ofPlace _ _
  · exact Target.locate_ofPlace hl
  · exact Target.locate_ofPlace ha
  · rw [hid]
    exact hw

end Collector

/-- Whether a request admits a draft of a rule: the draft makes a finding among its files. -/
def Request.Admits (r : Request) (e : String × Draft) : Prop :=
  ∃ f, Collector.resolve r.files r.againstFiles e.1 e.2 = .ok f

/-- What an admitted draft says is admitted again when it was sent. -/
theorem Request.Admits.ofEntry {r : Request} {ruleId : String} {d : Draft}
    (h : r.Admits (ruleId, d)) :
    r.Admits ((d.entry ruleId).ruleId, Draft.ofEntry (d.entry ruleId)) := by
  obtain ⟨f, hf⟩ := h
  refine ⟨f, ?_⟩
  rw [← Collector.entry_of_resolve hf]
  exact Collector.resolve_ofEntry hf

/-- Whether a finding is the one that its entry makes among the files of a request. -/
def Finding.IsOf (r : Request) (f : Finding) : Prop :=
  Collector.resolve r.files r.againstFiles f.ruleId (Draft.ofEntry f.entry) = .ok f

/-- Findings of a request that say the same are the same. -/
theorem Finding.eq_of_entry_eq {r : Request} {f g : Finding} (hf : f.IsOf r) (hg : g.IsOf r)
    (h : f.entry = g.entry) : f = g := by
  have hid : f.ruleId = g.ruleId := congrArg FindingEntry.ruleId h
  unfold IsOf at hf hg
  rw [h, hid, hg] at hf
  exact (Except.ok.inj hf).symm

/-- Responses to a request of which the same is sent are the same. -/
theorem Response.eq_of_reply_eq {r : Request} {s t : Response} (hs : ∀ f ∈ s.findings, f.IsOf r)
    (ht : ∀ f ∈ t.findings, f.IsOf r) (h : s.reply = t.reply) : s = t := by
  obtain ⟨fs⟩ := s
  obtain ⟨gs⟩ := t
  have hmap : fs.map Finding.entry = gs.map Finding.entry := congrArg CheckReply.findings h
  congr 1
  clear h
  induction fs generalizing gs with
  | nil => simpa using hmap.symm
  | cons f fs ih =>
    cases gs with
    | nil => simp at hmap
    | cons g gs =>
      obtain ⟨hfg, hrest⟩ := List.cons.inj hmap
      rw [Finding.eq_of_entry_eq (hs f (by simp)) (ht g (by simp)) hfg,
        ih (fun f hf => hs f (by simp [hf])) gs (fun g hg => ht g (by simp [hg])) hrest]

namespace Collector

/-- Takes in drafts, one after another. -/
def addAll (c : Collector) (log : List (String × Draft)) : Collector :=
  log.foldl (fun c e => c.add e.1 e.2) c

/-- The findings that drafts make. -/
def accepted (c : Collector) (log : List (String × Draft)) : List Finding :=
  log.filterMap fun e => (resolve c.files c.againstFiles e.1 e.2).toOption

/-- The faults of the drafts that make no finding. -/
def refused (c : Collector) (log : List (String × Draft)) : List Fault :=
  log.filterMap fun e =>
    match resolve c.files c.againstFiles e.1 e.2 with
    | .ok _ => none
    | .error fault => some fault

/-- A draft that makes a finding adds it. -/
theorem add_of_ok {c : Collector} {e : String × Draft} {f : Finding} (h : c.written = false)
    (hf : resolve c.files c.againstFiles e.1 e.2 = .ok f) :
    c.add e.1 e.2 = { c with findings := c.findings ++ [f] } := by
  rw [add, if_neg (by simp [h]), hf]

/-- A draft that makes no finding adds a fault. -/
theorem add_of_error {c : Collector} {e : String × Draft} {fault : Fault} (h : c.written = false)
    (hf : resolve c.files c.againstFiles e.1 e.2 = .error fault) :
    c.add e.1 e.2 = { c with faults := c.faults ++ [fault] } := by
  rw [add, if_neg (by simp [h]), hf]

/-- Before the response is given, each draft adds a finding or a fault, in order. -/
theorem addAll_eq (c : Collector) (log : List (String × Draft)) (h : c.written = false) :
    c.addAll log = { c with
      findings := c.findings ++ c.accepted log
      faults := c.faults ++ c.refused log } := by
  induction log generalizing c with
  | nil => simp [addAll, accepted, refused]
  | cons e log ih =>
    have hstep : c.addAll (e :: log) = (c.add e.1 e.2).addAll log := rfl
    cases hres : resolve c.files c.againstFiles e.1 e.2 with
    | ok f =>
      rw [hstep, add_of_ok h hres, ih { c with findings := c.findings ++ [f] } h]
      simp [accepted, refused, hres, Except.toOption]
    | error fault =>
      rw [hstep, add_of_error h hres, ih { c with faults := c.faults ++ [fault] } h]
      simp [accepted, refused, hres, Except.toOption]

/-- No draft is refused just when the request admits all. -/
theorem refused_eq_nil_iff {r : Request} {log : List (String × Draft)} :
    (ofRequest r).refused log = [] ↔ ∀ e ∈ log, r.Admits e := by
  unfold refused
  rw [List.filterMap_eq_nil_iff]
  refine forall₂_congr fun e _ => ?_
  unfold Request.Admits ofRequest
  cases resolve r.files r.againstFiles e.1 e.2 <;> simp

/-- The findings of admitted drafts say what the drafts say. -/
theorem map_entry_accepted {r : Request} {log : List (String × Draft)}
    (h : ∀ e ∈ log, r.Admits e) :
    ((ofRequest r).accepted log).map Finding.entry = log.map fun e => e.2.entry e.1 := by
  induction log with
  | nil => rfl
  | cons e log ih =>
    obtain ⟨f, hf⟩ := h e (by simp)
    have hrest := ih fun e he => h e (by simp [he])
    have hcons : (ofRequest r).accepted (e :: log) = f :: (ofRequest r).accepted log := by
      simp [accepted, ofRequest, hf, Except.toOption]
    rw [hcons, List.map_cons, List.map_cons, hrest, entry_of_resolve hf]

/-- Findings that a collector accepts are findings of its request. -/
theorem isOf_of_mem_accepted {r : Request} {log : List (String × Draft)} {f : Finding}
    (h : f ∈ (ofRequest r).accepted log) : f.IsOf r := by
  obtain ⟨e, -, he⟩ := List.mem_filterMap.1 h
  cases hres : resolve (ofRequest r).files (ofRequest r).againstFiles e.1 e.2 with
  | error fault => simp [hres, Except.toOption] at he
  | ok g =>
    have hg : g = f := by simpa [hres, Except.toOption] using he
    subst hg
    exact resolve_ofEntry hres

/-- A collector gives a response just when its request admits all drafts, and the response has the
findings that the drafts make. -/
theorem finish_addAll_eq_ok_iff {r : Request} {log : List (String × Draft)} {response : Response} :
    ((ofRequest r).addAll log).finish.1 = .ok response ↔
      (∀ e ∈ log, r.Admits e) ∧ response = Response.ofFindings ((ofRequest r).accepted log) := by
  rw [addAll_eq _ _ rfl, ← refused_eq_nil_iff]
  unfold finish
  cases hrefused : (ofRequest r).refused log with
  | nil =>
    simp only [ofRequest, List.append_nil, Fault.join, List.nil_append, true_and]
    exact ⟨fun h => (Except.ok.inj h).symm, fun h => congrArg Except.ok h.symm⟩
  | cons fault faults =>
    simp only [ofRequest, List.nil_append, reduceCtorEq, false_and, iff_false]
    cases faults <;> simp [Fault.join]

/-- What is sent of the response is the sorted form of what the drafts say. -/
theorem entries_of_finish {r : Request} {log : List (String × Draft)} {response : Response}
    (h : ((ofRequest r).addAll log).finish.1 = .ok response) :
    response.findings.map Finding.entry
      = FindingEntry.sort (log.map fun e => e.2.entry e.1) := by
  obtain ⟨hall, rfl⟩ := finish_addAll_eq_ok_iff.1 h
  rw [← map_entry_accepted hall]
  exact Finding.map_entry_sort _

/-- The findings of the response are findings of the request. -/
theorem isOf_of_finish {r : Request} {log : List (String × Draft)} {response : Response}
    (h : ((ofRequest r).addAll log).finish.1 = .ok response) :
    ∀ f ∈ response.findings, f.IsOf r := by
  obtain ⟨-, rfl⟩ := finish_addAll_eq_ok_iff.1 h
  intro f hf
  exact isOf_of_mem_accepted ((Finding.sort_perm _).mem_iff.1 hf)

end Collector

end SchemaCheck
