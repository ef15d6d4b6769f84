import SchemaCheck.Testing.Host.Process
import SchemaCheck.Testing.Shell.Script

/-!
# The state of a shell

What a shell knows while it runs a script, and what the commands of a script do with it. A subshell
is a task of its own that begins with a copy of this state. A command ends, or it leaves the
commands around it by a jump.
-/

namespace SchemaCheck.Testing.Shell

open Host

/-- Tasks that a shell started to run one pipeline, and what each of them is. -/
structure Job where
  number : Nat
  tasks : List Nat
  /-- Whether it has been waited for. -/
  isOld : Bool := false

/-- What a shell knows. -/
structure Environment where
  name : Chars
  arguments : List Chars := []
  /-- The variables with their values. -/
  values : List (Chars × Chars) := []
  readOnly : List Chars := []
  /-- The variables that programs see. -/
  exported : List Chars := []
  functions : List (Chars × Command) := []
  /-- How the last command ended. -/
  status : Nat := 0
  /-- The letters of the options that are on. -/
  options : Chars := []
  /-- What is run on signals; zero is the end of the shell. -/
  traps : List (Nat × Chars) := []
  /-- In a function, the variables to be given back when it ends. -/
  locals : Option (List (Chars × Option Chars)) := none
  /-- How many functions are around the command that runs. -/
  depth : Nat := 0
  /-- How many loops are around the command that runs. -/
  loops : Nat := 0
  /-- The number that the script knows the shell by. -/
  identity : Nat := 0
  /-- Commands that nothing waits for, the last one first. -/
  jobs : List Job := []
  /-- The last task that nothing waits for. -/
  lastTask : Option Nat := none
  /-- How the tasks ended that the shell started. -/
  endings : List (Nat × ExitStatus) := []
  /-- The words that stand for others. -/
  aliases : List (Chars × Chars) := []
  /-- The programs that have been looked for, with where they are. -/
  places : List (Chars × Chars) := []
  /-- How far options have been read within a word. -/
  optionOffset : Nat := 0
  /-- The line of the command that runs. -/
  line : Nat := 1
  /-- The line up to which the script has been read. -/
  position : Nat := 1
  /-- How the last commands ended whose output was put into words. -/
  printedStatus : Nat := 0
  /-- The command of the shell that runs, which comes first in what is said of a fault. -/
  speaker : Option String := none

/-- How a command leaves the commands around it. -/
inductive Jump where
  | exits (status : Nat)
  | returns (status : Nat)
  | breaks (loops : Nat)
  | continues (loops : Nat)
  /-- A command gives up; only the commands that are a part of the shell itself take it along. -/
  | fails (status : Nat)

/-- Running a part of a script. -/
abbrev Run := ExceptT Jump (StateT Environment Act)

namespace Run

/-- The shell. -/
def shell : Run Environment := get

/-- Changes the shell. -/
def change (f : Environment → Environment) : Run Unit := modify f

/-- The world. -/
def world : Run World := Act.world

/-- Changes the task that the shell is. -/
def modifyTask (f : Task → Task) : Run Unit := Act.change fun w => w.modifySelf f

/-- Writes to a descriptor, and says whether that went well. -/
def write (descriptor : Nat) (cs : Chars) : Run Bool := do
  match ← Act.write descriptor cs with
  | .ok () => return true
  | .error _ => return false

/-- Writes a line to the errors. -/
def complain (cs : Chars) : Run Unit := do
  let _ ← write 2 (cs ++ ['\n'])

/-- Says what is wrong with the command that runs. -/
def warnWith (cs : Chars) : Run Unit := do
  let s ← shell
  complain (s.name ++ ": ".toList ++ decimal s.line ++ ": ".toList ++
    (match s.speaker with
      | some x => Chars.ofString x ++ ": ".toList
      | none => []) ++ cs)

/-- Says what is wrong with the command that runs. -/
def warn (text : String) : Run Unit := warnWith text.toList

/-- Gives up on the command that runs. -/
def fault {α : Type} (text : String) : Run α := do
  warn text
  throw (.fails 2)

/-- Gives up on the script. -/
def fatal {α : Type} (text : String) : Run α := do
  warn text
  throw (.exits 2)

/-- The value of a variable. -/
def valueOf? (name : Chars) : Run (Option Chars) := do
  return (← shell).values.lookup name

/-- Whether an option is on. -/
def hasOption (letter : Char) : Run Bool := do return (← shell).options.contains letter

/-- Gives a variable a value, or takes it away. -/
def putVariable (name : Chars) (value : Option Chars) : Run Unit :=
  change fun s =>
    let others := s.values.filter fun v => v.1 != name
    { s with
      values := match value with
        | some v => (name, v) :: others
        | none => others
      optionOffset := if name == "OPTIND".toList then 0 else s.optionOffset }

/-- Makes programs see a variable. -/
def reveal (name : Chars) : Run Unit :=
  change fun s =>
    { s with exported := if s.exported.contains name then s.exported else s.exported ++ [name] }

/-- Assigns to a variable that may be assigned to. -/
def assign (name : Chars) (value : Option Chars) : Run Unit := do
  let s ← shell
  if s.readOnly.contains name then fault (String.ofList name ++ ": is read only")
  putVariable name value
  if name == "PATH".toList then change fun s => { s with places := [] }
  if s.options.contains 'a' && value.isSome then reveal name

/-- Sets how the last command ended. -/
def setStatus (status : Nat) : Run Unit := change fun s => { s with status }

/-- The drawer in which what has a name is kept, of so many drawers. -/
def drawer (count : Nat) (name : Chars) : Nat :=
  (name.foldl (fun n c => n + c.toNat) (16 * ((name.head?.map Char.toNat).getD 0))) % count

/-- What is kept by name in so many drawers, drawer by drawer. -/
def byDrawer {α : Type} (count : Nat) (entries : List (Chars × α)) : List (Chars × α) :=
  entries.mergeSort fun x y => drawer count x.1 ≤ drawer count y.1

/-- The variables that programs see, drawer by drawer. -/
def seenByPrograms : Run (List (Chars × Chars)) := do
  let s ← shell
  return byDrawer 39 <| s.exported.filterMap fun name =>
    (s.values.lookup name).map fun v => (name, v)

/-- Why a file is not opened, in the words of a shell. -/
def refusalText (isMade : Bool) : Refusal → String
  | .missing | .notDirectory => if isMade then "Directory nonexistent" else "No such file"
  | e => e.text

/-- Leads a descriptor to a path. -/
def openAt (descriptor : Nat) (path : Chars) (m : OpenMode) : Run Unit := do
  let since := (← world).opened.size
  match ← Act.update fun w => w.openPath path m with
  | .ok n =>
    Act.change fun w => w.connect descriptor (some n)
    Act.meet path m since
  | .error e =>
    let kind := if m.creates then "cannot create " else "cannot open "
    fault (kind ++ String.ofList path ++ ": " ++ refusalText m.creates e)

/-- Leads a descriptor to a pipe that holds characters. -/
def openText (descriptor : Nat) (cs : Chars) : Run Unit :=
  Act.change fun w =>
    let (files, n) := w.files.add { content := Content.ofText cs }
    let (w, n) := { w with files }.openNode n { reads := true }
    w.connect descriptor (some n)

/-- Redirects a descriptor; `target` is the word of the redirection, and `isKept` says that the
descriptor is to be given back. -/
def redirect (isKept : Bool) (descriptor : Nat) (direction : Direction) (target : Chars) :
    Run Unit := do
  let output : OpenMode := { writes := true, creates := true, empties := true }
  match direction with
  | .input => openAt descriptor target { reads := true }
  | .both => openAt descriptor target { reads := true, writes := true, creates := true }
  | .output => openAt descriptor target { output with isNew := ← hasOption 'C' }
  | .force => openAt descriptor target output
  | .append => openAt descriptor target { output with empties := false, appends := true }
  | .document => openText descriptor target
  | .same =>
    match target with
    | ['-'] => Act.change fun w => w.connect descriptor none
    | [d] =>
      if !d.isDigit then noDescriptor
      match (← world).descriptor? (d.toNat - 0x30) with
      | some n => Act.change fun w => w.connect descriptor (some n)
      | none =>
        -- A descriptor that was put aside is closed now, and nobody reads of the fault if errors
        -- went that way.
        if isKept then Act.change fun w => w.connect descriptor none
        fault (String.singleton d ++ ": Bad file descriptor")
    | _ => noDescriptor
where
  /-- Gives up because a word is no descriptor, where reading the script has come to. -/
  noDescriptor : Run Unit := do
    change fun s => { s with line := s.position }
    fatal "Syntax error: Bad fd number"

/-- Runs an action and then another one, which runs also where the first leaves by a jump. -/
def finishing {α : Type} (a : Run α) (b : Run Unit) : Run α := do
  let outcome ←
    try
      let x ← a
      pure (Except.ok x)
    catch j => pure (Except.error j)
  b
  match outcome with
  | .ok x => return x
  | .error j => throw j

/-- Runs an action in the name of a command of the shell. -/
def speaking {α : Type} (speaker : String) (a : Run α) : Run α := do
  let before := (← shell).speaker
  change fun s => { s with speaker := some speaker }
  finishing a (change fun s => { s with speaker := before })

/-- Runs an action and gives the descriptors back as they were. -/
def keepingDescriptors {α : Type} (a : Run α) : Run α := do
  let t := (← world).self
  modifyTask fun u => { u with held := u.descriptors.map Prod.snd ++ u.held }
  finishing a (modifyTask fun u => { u with descriptors := t.descriptors, held := t.held })

/-- Runs an action to its end, and what is to be run there; `runAction` runs commands that are given
as characters. -/
def toEnd (runAction : Chars → Run Unit) (a : Run Unit) : Run Unit := do
  let settle (a : Run Unit) : Run Unit :=
    try
      a
    catch
      | .exits status | .returns status | .fails status => setStatus status
      | .breaks _ | .continues _ => return ()
  settle a
  match (← shell).traps.lookup 0 with
  | some action =>
    let status := (← shell).status
    change fun s => { s with traps := s.traps.filter fun t => t.1 != 0 }
    settle do
      runAction action
      setStatus status
  | none => return ()

/-- Lets the task catch the signals on which something is to be run, and ignore those on which
nothing is. -/
def heedTraps : Run Unit := do
  let traps := (← shell).traps.filter fun t => t.1 != 0
  let (ignored, caught) := traps.partition fun t => t.2.isEmpty
  modifyTask fun t => { t with caught := caught.map Prod.fst, ignored := ignored.map Prod.fst }

/-- What a shell does first when it has become a subshell: only the signals to be ignored stay
so. -/
def enterSubshell : Run Unit := do
  change fun s => { s with traps := s.traps.filter (·.2.isEmpty), jobs := [], endings := [] }
  heedTraps

/-- Runs an action in a subshell, and gives the number of its task. -/
def inSubshell (runAction : Chars → Run Unit) (a : Run Unit) : Run Nat := do
  let s ← shell
  Act.fork do
    let (_, s) ← ((do
      enterSubshell
      toEnd runAction a : Run Unit).run.run { s with position := 1 })
    return s.status

/-- What a shell says of a task that a signal ended. -/
def signalText (signal : Nat) : String :=
  match signal with
  | 1 => "Hangup"
  | 2 | 13 => ""
  | 3 => "Quit"
  | 4 => "Illegal instruction"
  | 5 => "Trace/breakpoint trap"
  | 6 => "Aborted"
  | 7 => "Bus error"
  | 8 => "Floating point exception"
  | 9 => "Killed"
  | 10 => "User defined signal 1"
  | 11 => "Segmentation fault"
  | 12 => "User defined signal 2"
  | 14 => "Alarm clock"
  | 15 => "Terminated"
  | 16 => "Stack fault"
  | 24 => "CPU time limit exceeded"
  | 25 => "File size limit exceeded"
  | 26 => "Virtual timer expired"
  | 27 => "Profiling timer expired"
  | 29 => "I/O possible"
  | 30 => "Power failure"
  | 31 => "Bad system call"
  | n =>
    if n < 34 then "Unknown signal " ++ toString n else "Real-time signal " ++ toString (n - 34)

/-- The first task that the shell started and whose end it has not noted. -/
def endedChild? (w : World) : Option Task :=
  w.tasks.find? fun t => t.parent == w.current && t.ending.isSome && !t.isCollected

/-- Whether a signal waits on which something is to be run. -/
def isInterrupted (w : World) : Bool := w.self.pending.any w.self.caught.contains

/-- Waits for tasks, in at most `fuel` ends of tasks; other tasks that end meanwhile are noted too.
Says whether all of them have ended, which a signal can prevent. -/
def waitFor (targets : List Nat) (canBeInterrupted : Bool) : Nat → Run Bool
  | 0 => return true
  | fuel + 1 => do
    let s ← shell
    if targets.all fun n => (s.endings.lookup n).isSome then return true
    Act.await fun w => (endedChild? w).isSome || (canBeInterrupted && isInterrupted w) ||
      !(w.tasks.any fun t => t.parent == w.current && !t.isCollected)
    let w ← world
    match endedChild? w with
    | some t =>
      let ending := t.ending.getD (.exited 0)
      Act.change fun w => w.modifyTask t.number fun t => { t with isCollected := true }
      change fun s => { s with endings := (t.number, ending) :: s.endings }
      match ending with
      | .killed n =>
        if targets.contains t.number && !(signalText n).isEmpty then
          complain (signalText n).toList
      | _ => pure ()
      waitFor targets canBeInterrupted fuel
    | none => return !(canBeInterrupted && isInterrupted w)

/-- The most tasks whose ends are noted while waiting for one. -/
def waitLimit : Nat := 100000

/-- Waits for the tasks of a command, and gives the exit code of the last one. -/
def statusAfter (targets : List Nat) : Run Nat := do
  let _ ← waitFor targets false waitLimit
  let s ← shell
  return (targets.getLast?.bind fun n => s.endings.lookup n).elim 0 statusOf

end Run

end SchemaCheck.Testing.Shell
