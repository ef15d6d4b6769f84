import SchemaCheck.Identifier
import SchemaCheck.Schema.Location

/-!
# Findings

What a rule has to say about the files: a message, with the place it is about and the place in the
former version of the files that it is compared with, where there are such places. Findings are
ordered by rule, place, former place and message, and the order looks at nothing else: findings that
it does not tell apart are the same in a message (`Finding.entry`).
-/

namespace SchemaCheck

/-- The order of an absent value and a present one: absence comes first, and two present values are
not told apart. -/
def comparePresence {α : Type} (a b : Option α) : Ordering :=
  match a, b with
  | none, some _ => .lt
  | some _, none => .gt
  | _, _ => .eq

/-- Paths in the order of their first difference; the start of a path comes before the path. -/
def SourcePath.compare : SourcePath → SourcePath → Ordering
  | [], [] => .eq
  | [], _ :: _ => .lt
  | _ :: _, [] => .gt
  | a :: as, b :: bs => (Ord.compare a b).then (SourcePath.compare as bs)

/-- Places in the order of file names, then paths. -/
def Place.compare (a b : Place) : Ordering :=
  (Ord.compare a.fileName b.fileName).then (SourcePath.compare a.path b.path)

/-- Places that may be absent, absence first. -/
def Place.compareOptional (a b : Option Place) : Ordering :=
  match a, b with
  | some a, some b => a.compare b
  | _, _ => comparePresence a b

/-- A finding as it is sent: its places are named, without their files. -/
structure FindingEntry where
  ruleId : String
  message : String := ""
  location : Option Place := none
  against : Option Place := none
  deriving DecidableEq, Repr

/-- Entries in the order of rule, place, former place and message. -/
def FindingEntry.compare (a b : FindingEntry) : Ordering :=
  (Ord.compare a.ruleId b.ruleId).then <|
    (Place.compareOptional a.location b.location).then <|
      (Place.compareOptional a.against b.against).then (Ord.compare a.message b.message)

/-- A finding of a rule. -/
structure Finding where
  ruleId : String
  message : String
  location : Option Location
  against : Option Location
  deriving Repr

namespace Finding

/-- A finding of a rule with a well-formed identifier. -/
def make? (ruleId message : String) (location against : Option Location) : Result Finding := do
  Identifier.check .rule ruleId
  return ⟨ruleId, message, location, against⟩

/-- What of a finding is sent. -/
def entry (f : Finding) : FindingEntry :=
  ⟨f.ruleId, f.message, f.location.map Location.place, f.against.map Location.place⟩

/-- The order of findings, which is that of their entries. -/
def compare (a b : Finding) : Ordering := a.entry.compare b.entry

/-- Findings are equal when their order does not tell them apart. -/
instance : BEq Finding := ⟨fun a b => a.compare b == .eq⟩

/-- Findings in their order; those that are not told apart stay as they were. -/
def sort (fs : List Finding) : List Finding := fs.mergeSort fun a b => a.compare b != .gt

end Finding

/-- The outcome of a check: its findings, in order. -/
structure Response where
  findings : List Finding := []
  deriving Repr

/-- The response with the given findings. -/
def Response.ofFindings (fs : List Finding) : Response := ⟨Finding.sort fs⟩

end SchemaCheck
