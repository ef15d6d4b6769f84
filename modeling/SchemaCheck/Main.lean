import SchemaCheck.Demo
import SchemaCheck.Plugin

/-!
# The provider of the demonstration rules

The program that serves one call to the demonstration rules: its arguments name the method, the
request comes from standard input, and the answer goes to standard output.
-/

namespace SchemaCheck.Main

/-- All that a stream holds, after what was read before. -/
partial def readAll (input : IO.FS.Stream) (before : ByteArray) : IO ByteArray := do
  let block ← input.read 65536
  if block.isEmpty then return before else readAll input (before ++ block)

/-- The input, or why it cannot be read. -/
def readInput : IO (Except String Bytes) := do
  try
    let bytes ← readAll (← IO.getStdin) .empty
    return .ok bytes.data.toList
  catch e => return .error (toString e)

/-- What the program says about its use. -/
def help : String :=
  "Rule provider speaking the check protocol over stdio\n\n" ++
  "Serves one check-protocol call per invocation: " ++
  "reads a JSON request from stdin and writes the\n" ++
  "JSON response to stdout.\n\n" ++
  "Commands: " ++ ", ".intercalate (Method.all.map Method.procedure) ++ ", help\n" ++
  "Options:  -v, --verbose  --parallel  -h, --help  -V, --version\n\n" ++
  "Exit codes:\n" ++
  "  0 - Call succeeded\n" ++
  "  1 - Call failed (error written to stdout)\n" ++
  "  2 - Invalid arguments or rule set\n"

/-- Serves one call, or says how it is done. -/
def serve (args : List String) : IO UInt32 := do
  match CommandLine.parse args with
  | .error .shown =>
    IO.print help
    return Usage.shown.exitCode.toUInt32
  | .error .wrong =>
    IO.eprint help
    return Usage.wrong.exitCode.toUInt32
  | .ok i =>
    let (result, sink) := Plugin.run Demo.spec i (← readInput) {}
    let output ← IO.getStdout
    output.write ⟨sink.written.toArray⟩
    output.flush
    match result with
    | .ok code => return code.toUInt32
    | .error e =>
      IO.eprintln ("Error: " ++ e.message)
      return exitSetupFailed.toUInt32

end SchemaCheck.Main

/-- The program. -/
def main (args : List String) : IO UInt32 := SchemaCheck.Main.serve args
