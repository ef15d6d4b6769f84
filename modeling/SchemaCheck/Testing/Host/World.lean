import SchemaCheck.Testing.Host.Files
import SchemaCheck.Transport

/-!
# The world of programs

What programs that run side by side share: the files, what has been opened, the tasks and the time.
A task is what a program runs as; it has descriptors, a directory, and signals that wait for it. All
that happens in the world is a function from one world to the next.
-/

namespace SchemaCheck.Testing.Host

/-- What was opened: a node, how far it was read or written, and what may be done. -/
structure Opened where
  node : Nat
  offset : Nat := 0
  reads : Bool := false
  writes : Bool := false
  appends : Bool := false

/-- How a path is opened. -/
structure OpenMode where
  reads : Bool := false
  writes : Bool := false
  /-- What is written goes behind all that is there. -/
  appends : Bool := false
  /-- A file that is missing is made. -/
  creates : Bool := false
  /-- What is there goes away. -/
  empties : Bool := false
  /-- A file that is there already is refused. -/
  isNew : Bool := false

/-- A task. -/
structure Task where
  number : Nat
  parent : Nat
  /-- What descriptors lead to, by the number of what was opened. -/
  descriptors : List (Nat × Nat) := []
  /-- What is kept open to be given back to descriptors later. -/
  held : List Nat := []
  /-- The node of its directory. -/
  directory : Nat := 0
  /-- The permissions that new files do not get. -/
  withheld : Nat := 0o022
  /-- The signals on which it does something of its own. -/
  caught : List Nat := []
  ignored : List Nat := []
  /-- The signals that it has not acted on. -/
  pending : List Nat := []
  ending : Option ExitStatus := none
  /-- Whether its end has been noted by its parent. -/
  isCollected : Bool := false
  /-- When it goes on, in millionths of a second. -/
  time : Nat := 0

/-- The world. -/
structure World where
  files : Files
  opened : Array Opened := #[]
  tasks : List Task
  /-- The number of the task that acts. -/
  current : Nat
  /-- The time, in millionths of a second. -/
  now : Nat := 0
  /-- The number of the next task. -/
  next : Nat

/-- What the default is for a signal: whether it ends the task. -/
def kills (signal : Nat) : Bool := !([0, 17, 18, 19, 20, 21, 22, 23, 28].contains signal)

namespace World

/-- The task of a number. -/
def task? (w : World) (number : Nat) : Option Task := w.tasks.find? fun t => t.number == number

/-- The task that acts. -/
def self (w : World) : Task := (w.task? w.current).getD { number := w.current, parent := 0 }

/-- Changes a task. -/
def modifyTask (w : World) (number : Nat) (f : Task → Task) : World :=
  { w with tasks := w.tasks.map fun t => if t.number == number then f t else t }

/-- Changes the task that acts. -/
def modifySelf (w : World) (f : Task → Task) : World := w.modifyTask w.current f

/-- What was opened under a number. -/
def openedOf (w : World) (n : Nat) : Opened := w.opened.getD n { node := 0 }

/-- What a descriptor of the task leads to. -/
def descriptor? (w : World) (descriptor : Nat) : Option Nat :=
  w.self.descriptors.lookup descriptor

/-- What the node behind something opened holds. -/
def contentOf (w : World) (n : Nat) : Content := w.files.content (w.openedOf n).node

/-- Changes what a node holds. -/
def setContent (w : World) (node : Nat) (c : Content) : World :=
  { w with files := w.files.modify w.now node fun _ => c }

/-- Changes how far something opened was read or written. -/
def seek (w : World) (n offset : Nat) : World :=
  { w with opened := w.opened.modify n fun o => { o with offset } }

/-- Whether a task that still runs has a node open in some way. -/
def holds (w : World) (node : Nat) (way : Opened → Bool) : Bool :=
  w.tasks.any fun t => t.ending.isNone &&
    (t.descriptors.map Prod.snd ++ t.held).any fun n =>
      let o := w.openedOf n
      o.node == node && way o

/-- The room of a pipe. -/
def pipeRoom : Nat := 65536

/-- Whether reading from a descriptor need not wait. -/
def canRead (w : World) (descriptor : Nat) : Bool :=
  match w.descriptor? descriptor with
  | none => true
  | some n =>
    match w.contentOf n with
    | .pipe _ _ size => size != 0 || !w.holds (w.openedOf n).node Opened.writes
    | _ => true

/-- Whether a line, or the last piece of one, can be read from a descriptor. -/
def canReadLine (w : World) (descriptor : Nat) : Bool :=
  match w.descriptor? descriptor with
  | none => true
  | some n =>
    match w.contentOf n with
    | .pipe front back _ =>
      (front ++ back).any (fun p => p.contains '\n') ||
        !w.holds (w.openedOf n).node Opened.writes
    | _ => true

/-- Whether writing to a descriptor need not wait. -/
def canWrite (w : World) (descriptor : Nat) : Bool :=
  match w.descriptor? descriptor with
  | none => true
  | some n =>
    match w.contentOf n with
    | .pipe _ _ size => size < pipeRoom || !w.holds (w.openedOf n).node Opened.reads
    | _ => true

/-- The first characters of pieces, up to a number of them, and the pieces that are left. -/
def takePieces : Nat → List Chars → Chars × List Chars
  | _, [] => ([], [])
  | 0, ps => ([], ps)
  | limit, p :: ps =>
    if p.length ≤ limit then
      let (cs, rest) := takePieces (limit - p.length) ps
      (p ++ cs, rest)
    else (p.take limit, p.drop limit :: ps)

/-- Reads from a descriptor; nothing is read at the end of what there is. -/
def read (w : World) (descriptor limit : Nat) : World × Except Refusal Chars :=
  match w.descriptor? descriptor with
  | none => (w, .error .badDescriptor)
  | some n =>
    let o := w.openedOf n
    if !o.reads then (w, .error .badDescriptor)
    else match w.contentOf n with
      | .file pieces _ =>
        let cs := (pieces.reverse.flatten.drop o.offset).take limit
        (w.seek n (o.offset + cs.length), .ok cs)
      | .pipe front back size =>
        let (cs, rest) := takePieces limit (front ++ back.reverse)
        (w.setContent o.node (.pipe rest [] (size - cs.length)), .ok cs)
      | .device .zero | .device .full => (w, .ok (List.replicate limit (Char.ofNat 0)))
      | .directory _ => (w, .error .isDirectory)
      | _ => (w, .ok [])

/-- Gives characters back that were read last and not needed, if what they come from can go back. -/
def unread (w : World) (descriptor count : Nat) : World :=
  match w.descriptor? descriptor with
  | none => w
  | some n =>
    match w.contentOf n with
    | .file _ _ => w.seek n ((w.openedOf n).offset - count)
    | _ => w

/-- How long the first line of some pieces is, with its end if it has one. -/
def lineLength : List Chars → Nat
  | [] => 0
  | p :: ps =>
    match p.idxOf? '\n' with
    | some i => i + 1
    | none => p.length + lineLength ps

/-- Reads a line from a descriptor with its end, if it has one. -/
def readLine (w : World) (descriptor : Nat) : World × Except Refusal Chars :=
  match w.descriptor? descriptor with
  | none => (w, .error .badDescriptor)
  | some n =>
    match w.contentOf n with
    | .file pieces _ =>
      w.read descriptor (lineLength [pieces.reverse.flatten.drop (w.openedOf n).offset])
    | .pipe front back _ => w.read descriptor (lineLength (front ++ back.reverse))
    | .device .zero | .device .full => (w, .ok [])
    | _ => w.read descriptor 1

/-- Writes to a descriptor. -/
def write (w : World) (descriptor : Nat) (cs : Chars) : World × Except Refusal Unit :=
  match w.descriptor? descriptor with
  | none => (w, .error .badDescriptor)
  | some n =>
    let o := w.openedOf n
    if !o.writes then (w, .error .badDescriptor)
    else match w.contentOf n with
      | .file pieces size =>
        let offset := if o.appends then size else o.offset
        let content : Content :=
          if offset = size then .file (cs :: pieces) (size + cs.length)
          else
            let old := pieces.reverse.flatten
            let start := old.take offset ++ List.replicate (offset - size) (Char.ofNat 0)
            .ofText (start ++ cs ++ old.drop (offset + cs.length))
        ((w.setContent o.node content).seek n (offset + cs.length), .ok ())
      | .pipe front back size =>
        if w.holds o.node Opened.reads then
          (w.setContent o.node (.pipe front (cs :: back) (size + cs.length)), .ok ())
        else
          ((if w.self.ignored.contains 13 then w
            else w.modifySelf fun t => { t with pending := t.pending ++ [13] }), .error .broken)
      | .sink pieces => (w.setContent o.node (.sink (cs :: pieces)), .ok ())
      | .device .full => (w, .error .noSpace)
      | _ => (w, .ok ())

/-- Opens a node. -/
def openNode (w : World) (node : Nat) (m : OpenMode) : World × Nat :=
  let o : Opened := { node, reads := m.reads, writes := m.writes, appends := m.appends }
  ({ w with opened := w.opened.push o }, w.opened.size)

/-- Opens a path. -/
def openPath (w : World) (path : Chars) (m : OpenMode) : World × Except Refusal Nat :=
  match w.files.find w.self.directory path with
  | .ok n =>
    match w.files.content n with
    | .device (.descriptor d) =>
      match w.descriptor? d with
      | some n => (w, .ok n)
      | none => (w, .error .missing)
    | .directory _ =>
      if m.writes then (w, .error .isDirectory)
      else
        let (w, n) := w.openNode n m
        (w, .ok n)
    | .file _ size =>
      if m.isNew then (w, .error .present)
      else
        let w := if m.empties && size != 0 then w.setContent n (.file [] 0) else w
        let (w, n) := w.openNode n m
        (w, .ok n)
    | _ =>
      let (w, n) := w.openNode n m
      (w, .ok n)
  | .error .missing =>
    if !m.creates then (w, .error .missing)
    else match w.files.place w.self.directory path with
      | .error e => (w, .error e)
      | .ok (directory, name) =>
        if path.getLast? = some '/' then (w, .error .isDirectory)
        else
          let mode := 0o666 &&& (0o777 - w.self.withheld % 0o1000)
          let (files, n) := w.files.create w.now directory name { content := .file [] 0, mode }
          let (w, n) := { w with files }.openNode n m
          (w, .ok n)
  | .error e => (w, .error e)

/-- Leads a descriptor to what was opened, or closes it. -/
def connect (w : World) (descriptor : Nat) (target : Option Nat) : World :=
  w.modifySelf fun t =>
    let others := t.descriptors.filter fun d => d.1 != descriptor
    { t with descriptors := match target with
      | some n => (descriptor, n) :: others
      | none => others }

/-- Makes a pipe, and gives its ends: the one to read from and the one to write to. -/
def makePipe (w : World) : World × Nat × Nat :=
  let (files, n) := w.files.add { content := .pipe [] [] 0 }
  let (w, reading) := { w with files }.openNode n { reads := true }
  let (w, writing) := w.openNode n { writes := true }
  (w, reading, writing)

/-- Ends a task. What it had open it has open no more. -/
def finish (w : World) (number : Nat) (ending : ExitStatus) : World :=
  w.modifyTask number fun t => { t with ending := some ending, descriptors := [], held := [] }

/-- The signal that ends a task, if one waits that does. -/
def fatal? (w : World) (number : Nat) : Option Nat := do
  let t ← w.task? number
  t.pending.find? fun s => s == 9 || (kills s && !t.caught.contains s && !t.ignored.contains s)

/-- Sends a signal to a task, and says whether there is such a task. -/
def send (w : World) (number signal : Nat) : World × Bool :=
  match w.task? number with
  | none => (w, false)
  | some t =>
    if t.isCollected then (w, false)
    else if signal == 0 || t.ending.isSome ||
        (signal != 9 && (t.ignored.contains signal ||
          (!kills signal && !t.caught.contains signal))) then (w, true)
    else (w.modifyTask number fun t =>
      { t with pending := t.pending.filter (· != signal) ++ [signal] }, true)

/-- A copy of the task that acts, which goes on at a later time. -/
def fork (w : World) (delay : Nat) : World × Nat :=
  let t := w.self
  let child : Task :=
    { t with number := w.next, parent := t.number, pending := [], time := t.time + delay }
  ({ w with tasks := w.tasks ++ [child], next := w.next + 1 }, w.next)

end World

end SchemaCheck.Testing.Host
