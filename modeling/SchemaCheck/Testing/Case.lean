import SchemaCheck.Client

/-!
# Testing rules

A test case serves a spec, runs one check and compares the findings with those that are expected: by
rule, and by the line and column of both places. What is expected is listed in the order of a
response.
-/

namespace SchemaCheck.Testing

/-- Where a finding is expected: in a file, from one line and column to another. -/
structure ExpectedPlace where
  fileName : String
  startLine : Int32 := 0
  startColumn : Int32 := 0
  endLine : Int32 := 0
  endColumn : Int32 := 0
  deriving DecidableEq, Repr

/-- What is expected at a location. -/
def ExpectedPlace.ofLocation (l : Location) : ExpectedPlace :=
  ⟨l.file.name, l.span.startLine, l.span.startColumn, l.span.endLine, l.span.endColumn⟩

/-- A finding that is expected. -/
structure Expected where
  ruleId : String
  location : Option ExpectedPlace := none
  against : Option ExpectedPlace := none
  deriving DecidableEq, Repr

/-- What is expected when a finding is. -/
def Expected.ofFinding (f : Finding) : Expected :=
  ⟨f.ruleId, f.location.map ExpectedPlace.ofLocation, f.against.map ExpectedPlace.ofLocation⟩

/-- One check of a spec. -/
structure Case where
  spec : Spec
  request : RequestBuilder
  expected : List Expected := []

namespace Case

/-- The response of the check, or why there is none. -/
def response (t : Case) : Except Stop Response := do
  let p ← Call.lift (Provider.ofSpec t.spec)
  let r ← Call.lift t.request.build
  (Client.check (Client.ofProvider p) r |>.runIn ⟨{}, { link := () }⟩).1

/-- Runs the check and compares: the response, or the text of the failure. -/
def run (t : Case) : Except String Response :=
  match t.response with
  | .error (.fault e) => .error ("check failed: " ++ e.message)
  | .error .unfinished => .error "check failed: unfinished"
  | .ok response =>
    if response.findings.map Expected.ofFinding = t.expected then .ok response
    else .error "annotations differ"

/-- Whether the spec is valid, or the text of the failure. -/
def requireValid (s : Spec) : Except String Unit :=
  match s.validate with
  | .ok () => .ok ()
  | .error e => .error ("invalid spec: " ++ e.message)

end Case

end SchemaCheck.Testing
