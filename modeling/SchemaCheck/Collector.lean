import SchemaCheck.Finding
import SchemaCheck.Request

/-!
# Collecting findings

During a check rules hand in drafts of findings. The collector turns each draft into a finding, or
remembers what is wrong with it, and gives its response once: all findings in order, or all faults
in the order in which they were made, and no findings. Each operation is one step, so that whatever
the order in which several rules take their steps, the collector sees a list of steps
(`Collector.run`).
-/

namespace SchemaCheck

open Text (quoted)

/-- Where one side of a draft points: at a thing of the schema, which may have no file, or at a file
and perhaps a path in it. -/
structure Target where
  descriptor : Option (Option String × SourcePath) := none
  fileName : Option String := none
  path : Option SourcePath := none
  deriving DecidableEq, Repr

namespace Target

/-- Accepts the targets that are given in one way only. The side is named in the fault. -/
def check (t : Target) (side : String) : Result Unit :=
  if t.descriptor.isSome && (t.fileName.isSome || t.path.isSome) then
    .error (.invalidFinding ("cannot set both " ++ side ++ "descriptor and " ++ side ++
      "file name or " ++ side ++ "source path"))
  else if t.path.isSome && t.fileName.isNone then
    .error (.invalidFinding ("cannot set " ++ side ++ "source path without " ++ side ++
      "file name"))
  else .ok ()

/-- The place that a target names, if it names one. -/
def place? (t : Target) : Option Place :=
  match t.descriptor, t.fileName with
  | some (none, _), _ => none
  | some (some name, path), _ => some ⟨name, path⟩
  | none, some name => some ⟨name, t.path.getD []⟩
  | none, none => none

/-- The location of a target in one of the files. -/
def locate (t : Target) (files : List SchemaFile) : Result (Option Location) :=
  match t.place? with
  | none => .ok none
  | some p =>
    match findFile files p.fileName with
    | some f => .ok (some ⟨f, p.path⟩)
    | none =>
      .error (.invalidFinding ("cannot add annotation for unknown file: " ++ quoted p.fileName))

/-- The target at a place that was sent. -/
def ofPlace : Option Place → Target
  | none => {}
  | some p => { fileName := some p.fileName, path := some p.path }

end Target

/-- What a rule hands in: a message and where it points, now and in the former files. -/
structure Draft where
  message : String := ""
  current : Target := {}
  against : Target := {}
  deriving DecidableEq, Repr

/-- The draft of a finding that was sent. -/
def Draft.ofEntry (e : FindingEntry) : Draft :=
  ⟨e.message, Target.ofPlace e.location, Target.ofPlace e.against⟩

/-- The findings and faults of one check. -/
structure Collector where
  files : List SchemaFile
  againstFiles : List SchemaFile
  /-- The findings so far, in the order in which they came. -/
  findings : List Finding := []
  /-- The faults so far, in the order in which they came. -/
  faults : List Fault := []
  /-- Whether the response was given. -/
  written : Bool := false

namespace Collector

/-- The collector for a request, with nothing in it. -/
def ofRequest (r : Request) : Collector := { files := r.files, againstFiles := r.againstFiles }

/-- The finding that a draft of a rule makes among the files of a check. -/
def resolve (files againstFiles : List SchemaFile) (ruleId : String) (d : Draft) :
    Result Finding := do
  d.current.check ""
  d.against.check "against "
  let location ← d.current.locate files
  let against ← d.against.locate againstFiles
  Finding.make? ruleId d.message location against

/-- Takes in a draft of a rule. -/
def add (c : Collector) (ruleId : String) (d : Draft) : Collector :=
  if c.written then { c with faults := c.faults ++ [.alreadyWritten] }
  else match resolve c.files c.againstFiles ruleId d with
    | .ok f => { c with findings := c.findings ++ [f] }
    | .error e => { c with faults := c.faults ++ [e] }

/-- Gives the response, the first time. -/
def finish (c : Collector) : Result Response × Collector :=
  if c.written then (.error .alreadyWritten, c)
  else match Fault.join c.faults with
    | some e => (.error e, { c with faults := [], written := true })
    | none => (.ok (Response.ofFindings c.findings),
        { c with faults := [], findings := [], written := true })

/-- One step: a draft from a rule, or the wish for the response. -/
inductive Step where
  | add (ruleId : String) (draft : Draft)
  | finish
  deriving Repr

/-- Takes steps in order, and gives the answers to the wishes among them. -/
def run (c : Collector) : List Step → List (Result Response) × Collector
  | [] => ([], c)
  | .add ruleId d :: steps => run (c.add ruleId d) steps
  | .finish :: steps =>
    let (answer, c) := c.finish
    let (answers, c) := run c steps
    (answer :: answers, c)

end Collector

end SchemaCheck
