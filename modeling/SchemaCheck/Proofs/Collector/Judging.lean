import SchemaCheck.Proofs.Collector.Adding

/-!
# What a collector makes of one draft

A draft is sound when its rule has a well-formed identifier and each of its sides is given in one
way only and names no unknown file (`Draft.Sound`). Everything that can be held against a draft is
listed in `Draft.objections`, in the order in which it is looked for. A request admits just the
sound drafts (`Request.admits_iff_sound`), which have no objections; what is remembered of another
draft is its first objection (`Collector.resolve_eq_error_iff`). The finding of a sound draft says
what the draft says, at the files of the request (`Finding.Tells`).
-/

namespace SchemaCheck

open Text (quoted)

/-! ## Computations with objections -/

/-- A computation succeeds when nothing is held against it, and else fails with the first of the
objections. -/
def Raises {α : Type} (result : Result α) (objections : List Fault) : Prop :=
  match result with
  | .ok _ => objections = []
  | .error e => objections.head? = some e

namespace Raises

variable {α β : Type} {result : Result α} {next : α → Result β} {es fs : List Fault}

/-- What is held against the first of two computations comes before what is held against the
second. -/
theorem bind (h : Raises result es) (hn : ∀ a, result = .ok a → Raises (next a) fs) :
    Raises (result >>= next) (es ++ fs) := by
  cases result with
  | ok a =>
    have hes : es = [] := h
    subst hes
    exact hn a rfl
  | error e =>
    show (es ++ fs).head? = some e
    have hes : es.head? = some e := h
    rw [List.head?_append, hes]
    rfl

/-- A value that is given raises no objection. -/
theorem pure (a : α) : Raises (.ok a) [] := rfl

/-- Nothing is held against a computation just when it succeeds. -/
theorem eq_nil_iff (h : Raises result es) : es = [] ↔ ∃ a, result = .ok a := by
  cases result with
  | ok a => exact ⟨fun _ => ⟨a, rfl⟩, fun _ => h⟩
  | error e =>
    have hes : es.head? = some e := h
    constructor
    · rintro rfl
      cases hes
    · rintro ⟨a, ha⟩
      cases ha

/-- A computation fails just with the first objection. -/
theorem eq_error_iff (h : Raises result es) {e : Fault} :
    result = .error e ↔ es.head? = some e := by
  cases result with
  | ok a =>
    have hes : es = [] := h
    simp [hes]
  | error d =>
    have hes : es.head? = some d := h
    rw [hes, Option.some.injEq, Except.error.injEq]

end Raises

/-! ## Targets -/

namespace Target

variable {t : Target} {files : List SchemaFile} {side : String}

/-- Whether a target names a file, by a thing of the schema or outright. -/
def Names (t : Target) (name : String) : Prop :=
  t.fileName = some name ∨ ∃ path, t.descriptor = some (some name, path)

/-- Whether a target is given in one way, by a thing of the schema or by a file and perhaps a path
in it, and the file that it names, if it names one, is there. -/
structure Sound (t : Target) (files : List SchemaFile) : Prop where
  oneWay : t.descriptor ≠ none → t.fileName = none ∧ t.path = none
  inFile : t.path ≠ none → t.fileName ≠ none
  known : ∀ name, t.Names name → ∃ f ∈ files, f.name = name

/-- To point nowhere is sound. -/
theorem sound_empty (files : List SchemaFile) : ({} : Target).Sound files where
  oneWay h := absurd rfl h
  inFile h := absurd rfl h
  known _ h := by rcases h with h | ⟨_, h⟩ <;> cases h

/-- Whether a location is where a target points: nowhere when the target names no place, and else at
that place in one of the files. -/
structure PointsTo (t : Target) (files : List SchemaFile) (l : Option Location) : Prop where
  place : l.map Location.place = t.place?
  file : ∀ location, l = some location → location.file ∈ files

/-- What is held against the way in which a target is given. -/
def misuses (t : Target) (side : String) : List Fault :=
  (if t.descriptor ≠ none ∧ (t.fileName ≠ none ∨ t.path ≠ none) then
    [.invalidFinding ("cannot set both " ++ side ++ "descriptor and " ++ side ++
      "file name or " ++ side ++ "source path")]
  else []) ++
  if t.path ≠ none ∧ t.fileName = none then
    [.invalidFinding ("cannot set " ++ side ++ "source path without " ++ side ++ "file name")]
  else []

/-- What is held against the file that a target names. -/
def strays (t : Target) (files : List SchemaFile) : List Fault :=
  match t.place? with
  | some p =>
    if ∃ f ∈ files, f.name = p.fileName then []
    else [.invalidFinding ("cannot add annotation for unknown file: " ++ quoted p.fileName)]
  | none => []

/-- The check of a target raises what is held against the way in which it is given. -/
theorem raises_check (t : Target) (side : String) : Raises (t.check side) (t.misuses side) := by
  obtain ⟨descriptor, fileName, path⟩ := t
  cases descriptor <;> cases fileName <;> cases path <;> rfl

/-- A file is found by its name when it is there. -/
theorem findFile_isSome_iff {name : String} :
    (findFile files name).isSome ↔ ∃ f ∈ files, f.name = name := by
  simp [findFile, List.find?_isSome]

/-- To locate a target raises what is held against the files that it names. -/
theorem raises_locate (t : Target) (files : List SchemaFile) :
    Raises (t.locate files) (t.strays files) := by
  unfold locate strays
  cases t.place? with
  | none => exact Raises.pure none
  | some p =>
    cases hfind : findFile files p.fileName with
    | some f =>
      have hf : ∃ f ∈ files, f.name = p.fileName := findFile_isSome_iff.1 (by rw [hfind]; rfl)
      simp only [if_pos hf, hfind]
      exact Raises.pure _
    | none =>
      have hf : ¬ ∃ f ∈ files, f.name = p.fileName := fun h => by
        have hsome := findFile_isSome_iff.2 h
        rw [hfind] at hsome
        cases hsome
      simp only [if_neg hf, hfind]
      rfl

/-- The place that a target names is in the file that it names, when it is given in one way. -/
theorem names_iff (h : t.descriptor ≠ none → t.fileName = none ∧ t.path = none) {name : String} :
    t.Names name ↔ ∃ p, t.place? = some p ∧ p.fileName = name := by
  obtain ⟨descriptor, fileName, path⟩ := t
  unfold Names place?
  cases descriptor with
  | none => cases fileName <;> simp
  | some d =>
    obtain ⟨rfl, rfl⟩ : fileName = none ∧ path = none := h (by simp)
    obtain ⟨_ | name', path'⟩ := d <;> simp

/-- Nothing is held against the sound targets, and only against those. -/
theorem sound_iff (side : String) : t.Sound files ↔ t.misuses side = [] ∧ t.strays files = [] := by
  have hmisuses : t.misuses side = [] ↔
      (t.descriptor ≠ none → t.fileName = none ∧ t.path = none) ∧
        (t.path ≠ none → t.fileName ≠ none) := by
    obtain ⟨descriptor, fileName, path⟩ := t
    cases descriptor <;> cases fileName <;> cases path <;> simp [misuses]
  have hstrays : t.strays files = [] ↔
      ∀ p, t.place? = some p → ∃ f ∈ files, f.name = p.fileName := by
    unfold strays
    cases t.place? with
    | none => simp
    | some p => by_cases hf : ∃ f ∈ files, f.name = p.fileName <;> simp [hf]
  rw [hmisuses, hstrays]
  constructor
  · rintro ⟨honeWay, hinFile, hknown⟩
    exact ⟨⟨honeWay, hinFile⟩, fun p hp => hknown _ ((names_iff honeWay).2 ⟨p, hp, rfl⟩)⟩
  · rintro ⟨⟨honeWay, hinFile⟩, hplace⟩
    refine ⟨honeWay, hinFile, fun name hname => ?_⟩
    obtain ⟨p, hp, rfl⟩ := (names_iff honeWay).1 hname
    exact hplace p hp

/-- A target is located where it points. -/
theorem pointsTo_of_locate {l : Option Location} (h : t.locate files = .ok l) :
    t.PointsTo files l := by
  refine ⟨place_of_locate h, fun location hl => ?_⟩
  subst hl
  unfold locate at h
  split at h
  · cases h
  · split at h
    · next f hfind =>
      cases h
      exact List.mem_of_find?_eq_some hfind
    · cases h

end Target

/-! ## Drafts -/

/-- Whether nothing is wrong with a draft that a rule hands in about the files of a request. -/
structure Draft.Sound (r : Request) (ruleId : String) (d : Draft) : Prop where
  rule : Identifier.isWellFormed .rule ruleId
  current : d.current.Sound r.files
  against : d.against.Sound r.againstFiles

/-- Everything that is held against a draft, in the order in which it is looked for: how its sides
are given, the files that they name, and the rule. -/
def Draft.objections (r : Request) (ruleId : String) (d : Draft) : List Fault :=
  d.current.misuses "" ++ (d.against.misuses "against " ++
    (d.current.strays r.files ++ (d.against.strays r.againstFiles ++
      (Identifier.violation? .rule ruleId).toList.map (.invalidId .rule ruleId))))

/-- Whether a finding is what a draft of a rule says about the files of a request. -/
structure Finding.Tells (r : Request) (e : String × Draft) (f : Finding) : Prop where
  rule : f.ruleId = e.1
  message : f.message = e.2.message
  location : e.2.current.PointsTo r.files f.location
  against : e.2.against.PointsTo r.againstFiles f.against

/-- To make a finding raises what is held against the identifier of the rule. -/
theorem raises_make? (ruleId message : String) (location against : Option Location) :
    Raises (Finding.make? ruleId message location against)
      ((Identifier.violation? .rule ruleId).toList.map (.invalidId .rule ruleId)) := by
  unfold Finding.make? Identifier.check
  cases Identifier.violation? .rule ruleId <;> rfl

namespace Collector

variable {r : Request} {ruleId : String} {d : Draft} {f : Finding}

/-- A draft makes a finding unless something is held against it. -/
theorem raises_resolve (r : Request) (ruleId : String) (d : Draft) :
    Raises (resolve r.files r.againstFiles ruleId d) (d.objections r ruleId) :=
  (d.current.raises_check "").bind fun _ _ => (d.against.raises_check "against ").bind fun _ _ =>
    (d.current.raises_locate r.files).bind fun location _ =>
      (d.against.raises_locate r.againstFiles).bind fun against _ =>
        raises_make? ruleId d.message location against

/-- What is remembered of a draft that makes no finding is the first objection. -/
theorem resolve_eq_error_iff {e : Fault} :
    resolve r.files r.againstFiles ruleId d = .error e ↔ (d.objections r ruleId).head? = some e :=
  (raises_resolve r ruleId d).eq_error_iff

/-- The finding that a draft makes tells what the draft says. -/
theorem tells_of_resolve (h : resolve r.files r.againstFiles ruleId d = .ok f) :
    f.Tells r (ruleId, d) := by
  obtain ⟨-, -, hl, ha, -, hid, hm⟩ := resolve_eq_ok_iff.1 h
  exact ⟨hid, hm, Target.pointsTo_of_locate hl, Target.pointsTo_of_locate ha⟩

end Collector

/-- Nothing is held against the sound drafts, and only against those. -/
theorem Draft.sound_iff {r : Request} {ruleId : String} {d : Draft} :
    d.Sound r ruleId ↔ d.objections r ruleId = [] := by
  have hrule : (Identifier.violation? .rule ruleId).toList.map (Fault.invalidId .rule ruleId) = [] ↔
      Identifier.isWellFormed .rule ruleId := by
    unfold Identifier.isWellFormed
    cases Identifier.violation? .rule ruleId <;> simp
  simp only [objections, List.append_eq_nil_iff, hrule]
  constructor
  · rintro ⟨hid, hcurrent, hagainst⟩
    obtain ⟨hc, hc'⟩ := (Target.sound_iff "").1 hcurrent
    obtain ⟨ha, ha'⟩ := (Target.sound_iff "against ").1 hagainst
    exact ⟨hc, ha, hc', ha', hid⟩
  · rintro ⟨hc, ha, hc', ha', hid⟩
    exact ⟨hid, (Target.sound_iff "").2 ⟨hc, hc'⟩, (Target.sound_iff "against ").2 ⟨ha, ha'⟩⟩

/-- A request admits the sound drafts. -/
theorem Request.admits_iff_sound {r : Request} {e : String × Draft} :
    r.Admits e ↔ e.2.Sound r e.1 := by
  rw [Draft.sound_iff, (Collector.raises_resolve r e.1 e.2).eq_nil_iff]
  rfl

end SchemaCheck
