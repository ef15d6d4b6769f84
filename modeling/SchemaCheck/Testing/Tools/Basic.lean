import SchemaCheck.Testing.Host.Process
import SchemaCheck.Testing.Host.Quoting

/-!
# What tools share

Tools are the programs that scripts call. Each is an action of a task that is given words and
variables and ends with an exit code. This module holds what many of them do alike: reading options,
saying what is wrong, and going through the files that they are given.
-/

namespace SchemaCheck.Testing.Tools

open Host

/-- How a program is called: its name, its words, and the variables that it sees. -/
structure Invocation where
  name : Chars
  words : List Chars := []
  environment : List (Chars × Chars) := []

/-- A program, which ends with an exit code. -/
abbrev Program := Invocation → Act Nat

/-- Starts a program by its name, in place of what the task has done; one that cannot be started is
refused. -/
abbrev Starter := Invocation → Act (Except Refusal Nat)

namespace Invocation

/-- Says something in the name of the program. -/
def say (c : Invocation) (text : Chars) : Act Unit := do
  let _ ← Act.write 2 (c.name ++ ": ".toList ++ text ++ ['\n'])

/-- Says what is wrong with the file of a name. -/
def sayOf (c : Invocation) (path : Chars) (text : String) : Act Unit :=
  c.say (nameText path ++ ": ".toList ++ text.toList)

/-- Says something and gives an exit code. -/
def fail (c : Invocation) (text : Chars) (status : Nat := 1) : Act Nat := do
  c.say text
  return status

/-- Says what is wrong with the words of the call, and gives an exit code. -/
def refuse (c : Invocation) (text : Chars) (status : Nat := 1) : Act Nat := do
  c.say text
  let _ ← Act.write 2 ("Try '".toList ++ c.name ++ " --help' for more information.\n".toList)
  return status

/-- Writes output. A program whose output is refused says so and ends. -/
def put (c : Invocation) (cs : Chars) (status : Nat := 1) : Act Unit := do
  if cs.isEmpty then return ()
  match ← Act.write 1 cs with
  | .ok () => return ()
  | .error e =>
    c.say ("write error: ".toList ++ e.text.toList)
    Act.leave (.exited status)

end Invocation

/-- Options that were read, with their values, and the other words. -/
structure Parsed where
  options : List (Char × Chars) := []
  operands : List Chars := []

namespace Parsed

/-- Whether an option was given. -/
def has (p : Parsed) (letter : Char) : Bool := p.options.any fun o => o.1 == letter

/-- The value of an option; the last one counts. -/
def value? (p : Parsed) (letter : Char) : Option Chars :=
  (p.options.reverse.find? fun o => o.1 == letter).map Prod.snd

/-- The value of an option, or what stands for it if it was not given. -/
def valueOr (p : Parsed) (letter : Char) (default_ : Chars) : Chars :=
  (p.value? letter).getD default_

/-- The values of an option. -/
def values (p : Parsed) (letter : Char) : List Chars :=
  (p.options.filter fun o => o.1 == letter).map Prod.snd

end Parsed

/-- The options that a program has: letters that stand alone, and letters that take a value. With
`inFront` they end at the first word that is none. -/
structure Options where
  plain : String := ""
  valued : String := ""
  inFront : Bool := false

namespace Options

/-- The options in letters behind a dash, and whether the last one takes the next word. -/
def letters (o : Options) : Chars → Except Chars (List (Char × Chars) × Option Char)
  | [] => .ok ([], none)
  | c :: cs =>
    if o.valued.contains c then
      .ok (if cs.isEmpty then ([], some c) else ([(c, cs)], none))
    else if o.plain.contains c then do
      let (found, last) ← letters o cs
      return ((c, []) :: found, last)
    else .error ("invalid option -- '".toList ++ [c, apostrophe])

/-- Reads the options among words. -/
def read (o : Options) : List Chars → Parsed → Except Chars Parsed
  | [], p => .ok { p with operands := p.operands.reverse }
  | ['-', '-'] :: words, p => .ok { p with operands := p.operands.reverse ++ words }
  | ('-' :: '-' :: name) :: _, _ =>
    .error ("unrecognized option '--".toList ++ name ++ [apostrophe])
  | ('-' :: c :: cs) :: words, p => do
    match ← o.letters (c :: cs), words with
    | (found, none), words => read o words { p with options := p.options ++ found }
    | (found, some d), value :: words =>
      read o words { p with options := p.options ++ found ++ [(d, value)] }
    | (_, some d), [] => .error ("option requires an argument -- '".toList ++ [d, apostrophe])
  | w :: words, p =>
    if o.inFront then .ok { p with operands := p.operands.reverse ++ w :: words }
    else read o words { p with operands := w :: p.operands }

/-- Runs a program with its options read; one that is called with others says so. -/
def run (o : Options) (program : Invocation → Parsed → Act Nat) (status : Nat := 1) : Program :=
  fun c =>
    match o.read c.words {} with
    | .error e => c.refuse e status
    | .ok p => program c p

end Options

/-- The lowest descriptor that leads nowhere, tried upwards in `fuel` steps. -/
def freeDescriptor (t : Task) : Nat → Nat → Nat
  | 0, n => n
  | fuel + 1, n => if t.descriptors.any fun d => d.1 == n then freeDescriptor t fuel (n + 1) else n

/-- Opens a path, and gives a descriptor that leads there. -/
def openPath (path : Chars) (m : OpenMode) : Act (Except Refusal Nat) := do
  let since := (← Act.world).opened.size
  let result ← Act.update fun w =>
    match w.openPath path m with
    | (w, .error e) => (w, .error e)
    | (w, .ok n) =>
      let d := freeDescriptor w.self 1000 3
      (w.connect d (some n), .ok d)
  if result.toBool then Act.meet path m since
  return result

/-- Closes a descriptor. -/
def close (descriptor : Nat) : Act Unit := Act.change fun w => w.connect descriptor none

/-- Does something with the descriptor of a path; a dash stands for the input. -/
def withInput {α : Type} (path : Chars) (act : Nat → Act (Except Refusal α)) :
    Act (Except Refusal α) := do
  if path = ['-'] then act 0
  else
    match ← openPath path { reads := true } with
    | .error e => return .error e
    | .ok d =>
      let a ← act d
      close d
      return a

/-- All the text of a path; a dash stands for the input. -/
def readPath (path : Chars) : Act (Except Refusal Chars) := withInput path Act.readAll

/-- Puts a text into the file of a path. -/
def writePath (path cs : Chars) : Act (Except Refusal Unit) := do
  match ← openPath path { writes := true, creates := true, empties := true } with
  | .error e => return .error e
  | .ok d =>
    let result ← Act.write d cs
    close d
    return result

/-- The operands of a program, or a dash for the input if there are none. -/
def orInput (paths : List Chars) : List Chars := if paths.isEmpty then [['-']] else paths

/-- Does something with each path, and gives the exit code: whether it went well with all. -/
def forEachPath (c : Invocation) (paths : List Chars) (act : Chars → Act (Except Refusal Unit))
    (status : Nat := 1) : Act Nat := do
  let mut outcome := 0
  for path in paths do
    match ← act path with
    | .ok () => pure ()
    | .error e =>
      c.sayOf path e.text
      outcome := status
  return outcome

/-- Shows what a function makes of the text of each input. -/
def showTexts (c : Invocation) (paths : List Chars) (shown : Chars → Chars → Chars) : Act Nat :=
  forEachPath c (orInput paths) fun path => do
    match ← readPath path with
    | .error e => return .error e
    | .ok cs =>
      c.put (shown path cs)
      return .ok ()

/-- Goes through a descriptor piece by piece, in at most `fuel` pieces. `step` takes a state and a
piece, and says what to write and whether to go on. -/
def stream {σ : Type} (c : Invocation) (descriptor : Nat) (step : σ → Chars → σ × Chars × Bool) :
    Nat → σ → Act (Except Refusal σ)
  | 0, s => return .ok s
  | fuel + 1, s => do
    match ← Act.read descriptor Act.blockSize with
    | .error e => return .error e
    | .ok [] => return .ok s
    | .ok cs =>
      let (s, out, goesOn) := step s cs
      c.put out
      if goesOn then stream c descriptor step fuel s else return .ok s

end SchemaCheck.Testing.Tools
