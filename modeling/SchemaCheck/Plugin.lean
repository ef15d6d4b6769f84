import SchemaCheck.CommandLine
import SchemaCheck.Transport

/-!
# Providers as programs

A provider that is a program serves one call: it reads the request, writes the answer, or the fault
in its place, on one line, and says by its exit code which of the two it was. A third exit code says
that it could not serve at all.
-/

namespace SchemaCheck.Plugin

/-- Where the program writes: bytes are taken up to a capacity, if there is one. -/
structure Sink where
  capacity : Option Nat := none
  written : Bytes := []
  deriving DecidableEq, Repr

/-- Writes bytes, all of them or none. -/
def Sink.write (s : Sink) (b : Bytes) : Result Sink :=
  let fits := match s.capacity with
    | none => true
    | some n => s.written.length + b.length ≤ n
  if fits then .ok { s with written := s.written ++ b } else .error (.io "broken output")

/-- The request that was read: white space alone stands for an empty one. -/
def request (input : Bytes) : Bytes := if input.isBlank then [0x7B, 0x7D] else input

/-- How rules run: side by side to the turns of a schedule, or in order. -/
def execution (i : Invocation) (schedule : List Nat) : Execution :=
  if i.parallel then .sideBySide schedule else .inOrder

/-- What is written for an outcome, with the exit code. -/
def outcome (r : Result Bytes) : Bytes × Nat :=
  match r with
  | .ok answer => (answer, exitSuccess)
  | .error e => (FaultMessage.codec.toBytes (FaultMessage.ofFault e), exitCallFailed)

/-- Serves one call: gives the exit code, or the fault that keeps it from serving, and what was
written. -/
def run (spec : Spec) (i : Invocation) (input : Except String Bytes) (sink : Sink)
    (schedule : List Nat := []) : Result Nat × Sink :=
  match Provider.ofSpec spec (execution i schedule) with
  | .error e => (.error e, sink)
  | .ok p =>
    match input with
    | .error detail => (.error (.io detail), sink)
    | .ok input =>
      let (result, _) := (p.handle i.method (request input)).run {}
      let (answer, code) := outcome result
      match sink.write answer with
      | .error e => (.error e, sink)
      | .ok sink =>
        match sink.write [0x0A] with
        | .error e => (.error e, sink)
        | .ok sink => (.ok code, sink)

/-- Serves the call that arguments ask for, and gives the exit code. -/
def serve (spec : Spec) (args : List String) (input : Except String Bytes) (sink : Sink)
    (schedule : List Nat := []) : Nat × Sink :=
  match CommandLine.parse args with
  | .error usage => (usage.exitCode, sink)
  | .ok i =>
    match run spec i input sink schedule with
    | (.ok code, sink) => (code, sink)
    | (.error _, sink) => (exitSetupFailed, sink)

end SchemaCheck.Plugin
