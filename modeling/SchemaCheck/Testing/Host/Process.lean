import SchemaCheck.Testing.Host.World

/-!
# Processes

What a task does, as a tree of steps that the world answers: a process changes the world at once, or
waits for something, or starts another process. Programs are written as actions, which say what to
do before a process goes on; an action that ends the task never goes on.
-/

namespace SchemaCheck.Testing.Host

/-- What a task does next. -/
inductive Process where
  | ended
  | step (act : World → World × Process)
  /-- Nothing happens until the world is ready. -/
  | waiting (isReady : World → Bool) (next : Process)
  /-- Another process starts, as a task of its own. -/
  | fork (child : Process) (next : Nat → Process)

/-- What is done before a process goes on with a result. -/
def Act (α : Type) : Type := (α → Process) → Process

namespace Act

instance : Monad Act where
  pure a := fun next => next a
  bind x f := fun next => x fun a => f a next

/-- Changes the world in one step. -/
def update {α : Type} (f : World → World × α) : Act α := fun next =>
  .step fun w =>
    let (w, a) := f w
    (w, next a)

/-- The world as it is. -/
def world : Act World := update fun w => (w, w)

/-- Changes the world. -/
def change (f : World → World) : Act Unit := update fun w => (f w, ())

/-- Waits until the world is ready. -/
def await (isReady : World → Bool) : Act Unit := fun next => .waiting isReady (next ())

/-- Lets time pass, in millionths of a second. -/
def spend (duration : Nat) : Act Unit :=
  change fun w => w.modifySelf fun t => { t with time := t.time + duration }

/-- Ends the task. -/
def leave {α : Type} (ending : ExitStatus) : Act α := fun _ =>
  .step fun w => (w.finish w.current ending, .ended)

/-- Starts another task, which does something and ends with the status that this gives. -/
def fork (child : Act Nat) : Act Nat := fun next =>
  .fork (child fun status => .step fun w =>
    (w.finish w.current (.exited (status % 256)), .ended)) next

/-- How long a task is busy with starting a program. -/
def startTime : Nat := 600

/-- Reads from a descriptor as much as there is, up to a limit. -/
def read (descriptor limit : Nat) : Act (Except Refusal Chars) := do
  await fun w => w.canRead descriptor
  update fun w => w.read descriptor limit

/-- Reads a line from a descriptor with its end, if it has one. -/
def readLine (descriptor : Nat) : Act (Except Refusal Chars) := do
  await fun w => w.canReadLine descriptor
  update fun w => w.readLine descriptor

/-- The named pipe that is behind a path, if there is one. -/
def pipeAt? (w : World) (path : Chars) : Option Nat :=
  match w.files.find w.self.directory path with
  | .ok n =>
    match w.files.content n with
    | .pipe .. => some n
    | _ => none
  | .error _ => none

/-- Waits until the other end of the pipe behind a path is open too, or has been since so many
openings. Nothing waits for what is no pipe, or is open at both ends. -/
def meet (path : Chars) (m : OpenMode) (since : Nat) : Act Unit := do
  match pipeAt? (← world) path with
  | none => return ()
  | some n =>
    let isOther (o : Opened) : Bool := if m.reads then o.writes else o.reads
    if !(m.reads && m.writes) then
      await fun w => w.holds n isOther ||
        (w.opened.toList.drop since).any fun o => o.node == n && isOther o

/-- How much is read at once. -/
def blockSize : Nat := 65536

/-- Reads all there is from a descriptor, in at most `fuel` pieces. -/
def readPieces (descriptor : Nat) : Nat → List Chars → Act (Except Refusal Chars)
  | 0, pieces => return .ok pieces.reverse.flatten
  | fuel + 1, pieces => do
    match ← read descriptor blockSize with
    | .error e => return .error e
    | .ok [] => return .ok pieces.reverse.flatten
    | .ok cs => readPieces descriptor fuel (cs :: pieces)

/-- The most pieces that are read from one descriptor. -/
def pieceLimit : Nat := 100000

/-- Reads all there is from a descriptor. -/
def readAll (descriptor : Nat) : Act (Except Refusal Chars) := readPieces descriptor pieceLimit []

/-- Writes to a descriptor. -/
def write (descriptor : Nat) (cs : Chars) : Act (Except Refusal Unit) := do
  await fun w => w.canWrite descriptor
  update fun w => w.write descriptor cs

/-- Waits for the end of a task. -/
def awaitEnd (number : Nat) : Act ExitStatus := do
  await fun w => ((w.task? number).map fun t => t.ending.isSome).getD true
  update fun w =>
    (w.modifyTask number fun t => { t with isCollected := true },
      ((w.task? number).bind Task.ending).getD (.exited 127))

end Act

/-- The exit code that stands for how a task ended. -/
def statusOf : ExitStatus → Nat
  | .exited n => n
  | .killed n => 128 + n

end SchemaCheck.Testing.Host
