import SchemaCheck.Call
import SchemaCheck.Provider

/-!
# Transports

A transport carries an encoded request to a provider and its encoded answer back. What it answers
may depend on everything that happened before, which is its state. While it is at work the call may
be cancelled and time passes; it has no other hold on the context of the call. A transport to a
provider in the same program is given here, and one to a program that is run once for every call.
-/

namespace SchemaCheck

/-- What comes of one request. -/
structure Answer (σ : Type) where
  result : Result Bytes
  state : σ
  /-- Whether the call was cancelled meanwhile. -/
  cancels : Bool := false
  /-- How long it took. -/
  time : Nat := 0

/-- A way to a provider. -/
abbrev Transport (σ : Type) := Method → Bytes → CallContext → σ → Answer σ

/-- The context after an answer. -/
def Answer.after {σ : Type} (a : Answer σ) (c : CallContext) : CallContext :=
  let c := c.elapse a.time
  if a.cancels then c.cancel else c

/-- Whatever an answer says of the time and of cancellation, the context evolves. -/
theorem Answer.evolves_after {σ : Type} (a : Answer σ) (c : CallContext) :
    c.Evolves (a.after c) := by
  unfold after
  split
  · exact (CallContext.evolves_elapse c _).trans (CallContext.evolves_cancel _)
  · exact CallContext.evolves_elapse c _

/-- Sends a request over a transport. -/
def Transport.send {σ : Type} (t : Transport σ) (m : Method) (request : Bytes) : Call σ Bytes :=
  Call.mk fun s =>
    let a := t m request s.context s.state
    (Call.lift a.result, ⟨a.after s.context, a.state⟩)

/-- The way to a provider in the same program. -/
def Transport.ofProvider {σ : Type} (p : Provider) : Transport σ := fun m request c s =>
  match c.check with
  | .error e => { result := .error e, state := s }
  | .ok () =>
    let (result, d) := (p.handle m request).run c
    { result, state := s, cancels := d.cancelled, time := d.now - c.now }

/-- How a program ended. -/
inductive ExitStatus where
  | exited (code : Nat)
  | killed (signal : Nat)
  deriving DecidableEq, Repr

/-- The name of a signal. -/
def signalName? : Nat → Option String
  | 1 => some "SIGHUP"
  | 2 => some "SIGINT"
  | 3 => some "SIGQUIT"
  | 4 => some "SIGILL"
  | 5 => some "SIGTRAP"
  | 6 => some "SIGABRT"
  | 7 => some "SIGBUS"
  | 8 => some "SIGFPE"
  | 9 => some "SIGKILL"
  | 10 => some "SIGUSR1"
  | 11 => some "SIGSEGV"
  | 12 => some "SIGUSR2"
  | 13 => some "SIGPIPE"
  | 14 => some "SIGALRM"
  | 15 => some "SIGTERM"
  | 16 => some "SIGSTKFLT"
  | 17 => some "SIGCHLD"
  | 18 => some "SIGCONT"
  | 19 => some "SIGSTOP"
  | 20 => some "SIGTSTP"
  | 21 => some "SIGTTIN"
  | 22 => some "SIGTTOU"
  | 23 => some "SIGURG"
  | 24 => some "SIGXCPU"
  | 25 => some "SIGXFSZ"
  | 26 => some "SIGVTALRM"
  | 27 => some "SIGPROF"
  | 28 => some "SIGWINCH"
  | 29 => some "SIGIO"
  | 30 => some "SIGPWR"
  | 31 => some "SIGSYS"
  | _ => none

/-- The words for how a program ended. -/
def ExitStatus.describe : ExitStatus → String
  | exited code => "exit status: " ++ toString code
  | killed signal =>
    "signal: " ++ toString signal ++
      match signalName? signal with
      | some name => " (" ++ name ++ ")"
      | none => ""

/-- What a program that ended leaves behind. -/
structure Finished where
  status : ExitStatus
  output : Bytes := []
  errors : Bytes := []
  /-- Whether the call was cancelled meanwhile. -/
  cancels : Bool := false
  /-- How long it took. -/
  time : Nat := 0

/-- A program with the arguments that come before the name of the method. -/
structure Command where
  program : String
  args : List String := []
  deriving DecidableEq, Repr

/-- Runs a program, with arguments and input, to its end; or says why it cannot be started. -/
abbrev Launcher := String → List String → Bytes → Except String Finished

/-- The exit codes by which a provider says how a call went. -/
def exitSuccess : Nat := 0

/-- The exit code of a call that failed, with the fault in place of the answer. -/
def exitCallFailed : Nat := 1

/-- The exit code of a provider that could not serve at all. -/
def exitSetupFailed : Nat := 2

/-- A text without the white space at its ends. -/
def trimText (s : String) : String :=
  String.ofList ((s.toList.dropWhile Text.isWhite).reverse.dropWhile Text.isWhite).reverse

/-- The answer that a finished program gives. -/
def Command.result (command : Command) (f : Finished) : Result Bytes :=
  if f.status = .exited exitSuccess then .ok f.output
  else if f.status = .exited exitCallFailed then do
    let m ← FaultMessage.codec.ofBytes f.output
    throw m.fault
  else
    .error (.remote .internal ("plugin " ++ command.program ++ " failed (" ++ f.status.describe ++
      "): " ++ trimText (Bytes.toStringLossy f.errors)))

/-- The way to a provider that is a program of its own, started for every call. -/
def Transport.ofCommand {σ : Type} (launch : Launcher) (command : Command) : Transport σ :=
  fun m request c s =>
    match c.check with
    | .error e => { result := .error e, state := s }
    | .ok () =>
      match launch command.program (command.args ++ [m.procedure]) request with
      | .error detail => { result := .error (.io detail), state := s }
      | .ok f =>
        let waited : Answer σ :=
          { result := .ok [], state := s, cancels := f.cancels, time := f.time }
        match (waited.after c).check with
        | .error e => { waited with result := .error e }
        | .ok () => { waited with result := command.result f }

end SchemaCheck
