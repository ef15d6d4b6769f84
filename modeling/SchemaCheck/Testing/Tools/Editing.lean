import SchemaCheck.Testing.Tools.Editing.Reading
import SchemaCheck.Testing.Tools.Lines

/-!
# Editing

The tool that edits text as it passes through: each line comes into a working text, the commands of
a script change it, and what it has become is written. What commands leave for later is written
before the next line comes.
-/

namespace SchemaCheck.Testing.Tools

open Host

namespace Editing

/-- How text is edited. -/
structure Settings where
  call : Invocation
  script : Array Command
  isQuiet : Bool

/-- The state of an edit. -/
structure Desk where
  text : Chars := []
  held : Chars := []
  number : Nat := 0
  /-- Whether something was substituted since the last line came. -/
  isChanged : Bool := false
  /-- The line at which the range of each command began, if the range goes on. -/
  ranges : Array (Option Nat)
  later : Chars := []
  /-- The line that comes next, if one was read ahead. -/
  next : Option Chars := none
  source : Source := { descriptor := 0, isAtEnd := true }
  /-- The files still to be read. -/
  paths : List Chars
  /-- Whether the last line of the input lacks its end. -/
  lacksEnd : Bool := false
  output : Chars := []
  status : Nat := 0

/-- What is done to a text. -/
abbrev Edit := StateT Desk Act

/-- What follows when the commands are through with a line. -/
inductive Outcome where
  | written
  | dropped
  /-- The commands begin again, without another line. -/
  | again
  | quit (status : Nat) (writes : Bool)

/-- Reads ahead, and says whether a line follows, in at most `fuel` files. -/
def hasNext (s : Settings) : Nat → Edit Bool
  | 0 => return false
  | fuel + 1 => do
    let d ← get
    if d.next.isSome then return true
    match ← (do if d.source.isAtEnd && d.source.ahead.isEmpty then return .ok (none, d.source)
                else d.source.line) with
    | .ok (some line, source) =>
      set { d with next := some line, source }
      return true
    | .ok (none, _) | .error _ =>
      match d.paths with
      | [] => return false
      | path :: paths =>
        set { d with paths }
        match ← (if path = ['-'] then pure (.ok 0) else openPath path { reads := true }) with
        | .ok descriptor => modify fun d => { d with source := { descriptor } }
        | .error e =>
          s.call.say ("can't read ".toList ++ path ++ ": ".toList ++ e.text.toList)
          modify fun d => { d with status := 2 }
        hasNext s fuel

/-- The most files that are read. -/
def fileLimit : Nat := 100000

/-- Brings the next line, and says whether there is one; with `joins` it comes behind the text. -/
def bring (s : Settings) (joins : Bool) : Edit Bool := do
  if !(← hasNext s fileLimit) then return false
  modify fun d =>
    let line := d.next.getD []
    let body := Chars.body line
    { d with
      next := none, number := d.number + 1, lacksEnd := line.length = body.length
      text := if joins then d.text ++ '\n' :: body else body }
  return true

/-- Writes what has been put aside for the output. -/
def flush (s : Settings) : Edit Unit := do
  let d ← get
  set { d with output := [] }
  if !d.output.isEmpty then s.call.put d.output 4

/-- Puts characters aside for the output. -/
def emit (s : Settings) (cs : Chars) : Edit Unit := do
  modify fun d => { d with output := d.output ++ cs }
  if (← get).output.length > 4096 then flush s

/-- Writes a line. The last one of the input lacks its end if it did so there. -/
def emitLine (s : Settings) (cs : Chars) : Edit Unit := do
  let isLast := (← get).lacksEnd && !(← hasNext s fileLimit)
  emit s (if isLast then cs else cs ++ ['\n'])

/-- Ends the work on a line. -/
def endLine (s : Settings) (writes : Bool) : Edit Unit := do
  if writes && !s.isQuiet then emitLine s (← get).text
  let later := (← get).later
  modify fun d => { d with later := [] }
  emit s later

/-- Whether the line is the one that an address means, in a range that began at a line. -/
def Address.holds (s : Settings) (start : Nat) : Address → Edit Bool
  | line n => return (← get).number = n
  | everyFrom first step => do
    let n := (← get).number
    return if step = 0 then n = first else n ≥ first && (n - first) % step = 0
  | last => return !(← hasNext s fileLimit)
  | found f => return Expression.occursIn f.ignoresCase f.expression (← get).text
  | after count => return (← get).number = start + count

/-- Whether a range ends at the line at which it begins. -/
def Address.isOver (n : Nat) : Address → Bool
  | line k => k ≤ n
  | after 0 => true
  | _ => false

/-- Whether a command is meant for the line; `place` is where the command is in the script. -/
def Command.holds (s : Settings) (place : Nat) (c : Command) : Edit Bool := do
  let note (r : Option Nat) : Edit Unit :=
    modify fun d => { d with ranges := d.ranges.setIfInBounds place r }
  let n := (← get).number
  let here ← match c.first, c.last with
    | none, _ => pure true
    | some a, none => a.holds s n
    | some a, some b =>
      match (← get).ranges.getD place none, a, n with
      | none, .line 0, 1 =>
        if !(← b.holds s n) then note (some n)
        pure true
      | none, a, n =>
        if ← a.holds s n then
          if !b.isOver n then note (some n)
          pure true
        else pure false
      | some start, _, n =>
        if (← b.holds s start) || b.isOver n then note none
        pure (match b with
          | .line k => n ≤ k
          | _ => true)
  return here != c.isNegated

/-- Substitutes in the text. -/
def substitute (s : Settings) (f : Finder) (ps : List Piece) (number : Nat)
    (isGlobal prints : Bool) : Edit Unit := do
  let text := (← get).text.toArray
  let isMeant (n : Nat) : Bool := n = number || (isGlobal && n > number)
  let (new, count) := Expression.replace f.ignoresCase text.toList f.expression fun n m =>
    if !isMeant n then m.groupText text 0
    else ps.flatMap fun p => match p with
      | .text cs => cs
      | .group k => m.groupText text k
  if count ≥ number then
    modify fun d => { d with text := new, isChanged := true }
    if prints then emitLine s new

/-- The place of a label, or the end of the script. -/
def target (s : Settings) (name : Chars) : Nat :=
  (s.script.findIdx? fun c => match c.action with
    | .label n => n = name
    | _ => false).getD s.script.size

/-- What a plain command does; an outcome says that the commands are through with the line. -/
def performPlain (s : Settings) (letter : Char) : Edit (Option Outcome) := do
  let d ← get
  let (front, rest) := d.text.span (· != '\n')
  match letter with
  | '=' => emit s (decimal d.number ++ ['\n'])
  | 'd' => return some .dropped
  | 'D' =>
    if rest.isEmpty then return some .dropped
    set { d with text := rest.tail }
    return some .again
  | 'g' => set { d with text := d.held }
  | 'G' => set { d with text := d.text ++ '\n' :: d.held }
  | 'h' => set { d with held := d.text }
  | 'H' => set { d with held := d.held ++ '\n' :: d.text }
  | 'x' => set { d with text := d.held, held := d.text }
  | 'z' => set { d with text := [] }
  | 'p' => emitLine s d.text
  | 'P' => emit s (front ++ ['\n'])
  | 'n' =>
    if !(← hasNext s fileLimit) then return some (.quit 0 true)
    endLine s true
    let _ ← bring s false
  | 'N' =>
    if !(← hasNext s fileLimit) then return some (.quit 0 true)
    let _ ← bring s true
  | _ => pure ()
  return none

/-- What a command does at a place of the script, where it leads to, and whether the commands are
through with the line. -/
def perform (s : Settings) (place : Nat) (c : Command) : Edit (Nat × Option Outcome) := do
  let d ← get
  match c.action with
  | .opening | .closing | .label _ => return (place + 1, none)
  | .plain letter => return (place + 1, ← performPlain s letter)
  | .text 'a' cs => set { d with later := d.later ++ cs }
  | .text 'i' cs => emit s cs
  | .text _ cs =>
    -- A range is replaced as a whole, at its end.
    if c.isNegated || (d.ranges.getD place none).isNone then emit s cs
    return (place, some .dropped)
  | .jump letter name =>
    if letter != 'b' then set { d with isChanged := false }
    let jumps := letter == 'b' || d.isChanged == (letter == 't')
    return (if jumps then target s name else place + 1, none)
  | .quit letter status => return (place, some (.quit status (letter == 'q')))
  | .readFile path =>
    match ← readPath path with
    | .ok cs => set { d with later := d.later ++ cs }
    | .error _ => pure ()
  | .substitute f ps number isGlobal prints => substitute s f ps number isGlobal prints
  | .translate table => set { d with text := d.text.map fun c => (table.lookup c).getD c }
  return (place + 1, none)

/-- The place behind the brace that closes the one at a place, in at most `fuel` steps. -/
def behindBlock (s : Settings) : Nat → Nat → Nat → Nat
  | 0, _, place => place
  | fuel + 1, depth, place =>
    match s.script[place]?.map Command.action with
    | none => place
    | some .opening => behindBlock s fuel (depth + 1) (place + 1)
    | some .closing => if depth ≤ 1 then place + 1 else behindBlock s fuel (depth - 1) (place + 1)
    | _ => behindBlock s fuel depth (place + 1)

/-- Runs the commands from one on, in at most `fuel` commands. -/
def runFrom (s : Settings) : Nat → Nat → Edit Outcome
  | 0, _ => return .written
  | fuel + 1, place => do
    match s.script[place]? with
    | none => return .written
    | some c =>
      if ← c.holds s place then
        match ← perform s place c with
        | (_, some outcome) => return outcome
        | (next, none) => runFrom s fuel next
      else
        match c.action with
        | .opening => runFrom s fuel (behindBlock s (s.script.size + 1) 0 place)
        | _ => runFrom s fuel (place + 1)

/-- The most commands that run for one line. -/
def commandLimit : Nat := 10000000

/-- Goes through the lines of the input, in at most `fuel` lines, and gives the exit code. `isNew`
says that the next line is still to come. -/
def throughInput (s : Settings) : Nat → Bool → Edit Nat
  | 0, _ => return 0
  | fuel + 1, isNew => do
    if isNew && !(← bring s false) then return (← get).status
    if isNew then modify fun d => { d with isChanged := false }
    match ← runFrom s commandLimit 0 with
    | .written =>
      endLine s true
      throughInput s fuel true
    | .dropped =>
      endLine s false
      throughInput s fuel true
    | .again =>
      endLine s false
      throughInput s fuel false
    | .quit status writes =>
      endLine s writes
      return status

/-- The most lines that are edited. -/
def lineLimit : Nat := 1000000000

/-- The label that a script names and does not have. -/
def missingLabel? (s : Settings) : Option Chars :=
  s.script.toList.findSome? fun c =>
    match c.action with
    | .jump _ name => if name.isEmpty || target s name < s.script.size then none else some name
    | _ => none

end Editing

/-- Edits text by a script. -/
def sed : Program := fun c => do
  let usage : Act Nat := do
    let _ ← Act.write 2 ("Usage: ".toList ++ c.name ++
      " [OPTION]... \x7bscript-only-if-no-other-script\x7d [input-file]...\n".toList)
    return 1
  match Options.read { plain := "nErsu", valued := "ef" } c.words {} with
  | .error e =>
    c.say e
    usage
  | .ok p =>
    let mut parts := p.values 'e'
    for path in p.values 'f' do
      match ← readPath path with
      | .ok cs => parts := parts ++ [Chars.body cs]
      | .error e =>
        c.say ("couldn't open file ".toList ++ path ++ ": ".toList ++ e.text.toList)
        Act.leave (.exited 1)
    let isInFront := !p.has 'e' && !p.has 'f'
    if isInFront then parts := p.operands.take 1
    if parts.isEmpty then usage
    else match Editing.read (p.has 'E' || p.has 'r') parts with
    | .error (e, part, n) =>
      c.fail ("-e expression #" ++ toString part ++ ", char " ++ toString n ++ ": " ++ e).toList
    | .ok script =>
      let s : Editing.Settings := { call := c, script, isQuiet := p.has 'n' }
      match Editing.missingLabel? s with
      | some name => c.fail ("can't find label for jump to `".toList ++ name ++ [apostrophe])
      | none =>
        let paths := orInput (if isInFront then p.operands.drop 1 else p.operands)
        let work : Editing.Edit Nat := do
          let status ← Editing.throughInput s Editing.lineLimit true
          Editing.flush s
          return status
        return (← work.run { ranges := Array.replicate script.size none, paths }).1

end SchemaCheck.Testing.Tools
