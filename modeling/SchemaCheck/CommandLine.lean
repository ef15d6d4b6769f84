import SchemaCheck.Message.Method

/-!
# The command line

The arguments of a provider that is a program: a command that names the method to serve, and two
flags, which may stand before the command and after it. Arguments are read from left to right, and
the first that asks for help, or that is wrong, settles the matter.
-/

namespace SchemaCheck

/-- What the arguments ask for. -/
structure Invocation where
  /-- How often more log output was asked for, at most 255 times. -/
  verbose : Nat := 0
  /-- Whether the rules are to run side by side. -/
  parallel : Bool := false
  method : Method
  deriving DecidableEq, Repr

/-- Why nothing is served. -/
inductive Usage where
  /-- Help or the version was asked for. -/
  | shown
  /-- The arguments are wrong, or there is no command. -/
  | wrong
  deriving DecidableEq, Repr

/-- The exit code of a program that serves nothing. -/
def Usage.exitCode : Usage → Nat
  | shown => 0
  | wrong => 2

namespace CommandLine

/-- The flags on one side of the command. -/
structure Flags where
  verbose : Option Nat := none
  parallel : Bool := false
  deriving DecidableEq, Repr

/-- Which flags a side knows: the version can be asked for before the command only. -/
inductive Side where
  | beforeCommand
  | afterCommand
  deriving DecidableEq, Repr

/-- Counts one more wish for log output. -/
def Flags.addVerbose (f : Flags) : Flags :=
  { f with verbose := some (min (f.verbose.getD 0 + 1) 255) }

/-- Takes in flags that are single letters. -/
def letters (side : Side) (f : Flags) : List Char → Except Usage Flags
  | [] => .ok f
  | 'v' :: cs => letters side f.addVerbose cs
  | 'h' :: _ => .error .shown
  | 'V' :: _ => if side = .beforeCommand then .error .shown else .error .wrong
  | _ => .error .wrong

/-- Takes in a flag that is a word. Side by side can be asked for once on a side. -/
def word (side : Side) (f : Flags) (name : List Char) : Except Usage Flags :=
  let name := String.ofList name
  if name = "verbose" then .ok f.addVerbose
  else if name = "parallel" then
    if f.parallel then .error .wrong else .ok { f with parallel := true }
  else if name = "help" then .error .shown
  else if name = "version" && side = .beforeCommand then .error .shown
  else .error .wrong

/-- What an argument is. -/
inductive Argument where
  /-- The mark after which there are no more flags. -/
  | endOfFlags
  | word (name : List Char)
  | letters (names : List Char)
  | plain (text : String)

/-- What an argument is, by its first characters. -/
def classify (arg : String) : Argument :=
  match arg.toList with
  | ['-', '-'] => .endOfFlags
  | '-' :: '-' :: name => .word name
  | '-' :: c :: names => .letters (c :: names)
  | _ => .plain arg

/-- The flags after the command, where nothing but flags may stand. -/
def afterCommand (f : Flags) : List String → Except Usage Flags
  | [] => .ok f
  | arg :: args =>
    match classify arg with
    | .endOfFlags => if args.isEmpty then .ok f else .error .wrong
    | .word name => do
      let f ← word .afterCommand f name
      afterCommand f args
    | .letters names => do
      let f ← letters .afterCommand f names
      afterCommand f args
    | .plain _ => .error .wrong

/-- The command that shows help. -/
def helpCommand : String := "help"

/-- What is asked about: nothing, one of the commands, or the command that shows help. -/
def isHelpTopic : List String → Bool
  | [] => true
  | [topic] => topic == helpCommand || Method.all.any fun m => m.procedure == topic
  | _ => false

/-- What the flags on both sides say together: side by side if either says so, and the wishes for
log output that come last. -/
def combine (before after : Flags) (m : Method) : Invocation where
  verbose := after.verbose.getD (before.verbose.getD 0)
  parallel := before.parallel || after.parallel
  method := m

/-- What the arguments from some point before the command on ask for. -/
def beforeCommand (f : Flags) : List String → Except Usage Invocation
  | [] => .error .wrong
  | arg :: args =>
    match classify arg with
    | .endOfFlags => .error .wrong
    | .word name => do
      let f ← word .beforeCommand f name
      beforeCommand f args
    | .letters names => do
      let f ← letters .beforeCommand f names
      beforeCommand f args
    | .plain text =>
      if text = helpCommand then
        if isHelpTopic args then .error .shown else .error .wrong
      else
        match Method.ofProcedure? text with
        | .ok m => do
          let after ← afterCommand {} args
          return combine f after m
        | .error _ => .error .wrong

/-- What the arguments, without the name of the program, ask for. -/
def parse (args : List String) : Except Usage Invocation := beforeCommand {} args

end CommandLine

end SchemaCheck
