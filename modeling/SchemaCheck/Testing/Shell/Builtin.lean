import SchemaCheck.Testing.Shell.Condition
import SchemaCheck.Testing.Shell.Expansion

/-!
# Commands of the shell

The commands that are a part of the shell itself: those that print, decide conditions, set
parameters and options, send signals, wait, and leave loops, functions and the script. Each takes
its words and gives its exit code. Some of them are special: where one gives up, the script ends.
-/

namespace SchemaCheck.Testing.Shell

open Host Run

/-! ## Numbers and quotes -/

/-- The number that a word of a command has to be. -/
def counted (w : Chars) : Run Nat :=
  match Condition.number w with
  | .ok n =>
    if 0 ≤ n && n ≤ 0x7FFFFFFF then return n.toNat
    else fault ("Illegal number: " ++ String.ofList w)
  | .error text => fault text

/-- A text between quotes that take it as it stands. -/
def enquoted (cs : Chars) : Chars :=
  let pieces := Chars.splitAt apostrophe cs
  go pieces
where
  /-- The pieces between quotes, with the quotes between them in quotes of the other kind. -/
  go : List Chars → Chars
    | [] => []
    | [p] => apostrophe :: p ++ [apostrophe]
    | p :: ps =>
      let run := ps.takeWhile List.isEmpty
      let rest := ps.drop run.length
      let quotes := if rest.isEmpty then run.length else run.length + 1
      apostrophe :: p ++ [apostrophe] ++ ('"' :: List.replicate quotes apostrophe ++ ['"']) ++
        goRest rest
  /-- What follows a run of quotes. -/
  goRest : List Chars → Chars
    | [] => []
    | p :: ps =>
      apostrophe :: p ++ [apostrophe] ++
        (ps.flatMap fun q => ('"' :: apostrophe :: ['"']) ++ apostrophe :: q ++ [apostrophe])

/-! ## Printing -/

/-- Prints for a command. -/
def print (name : String) (cs : Chars) : Run Nat := do
  if cs.isEmpty then return 0
  else if ← write 1 cs then return 0
  else
    warn (name ++ ": I/O error")
    return 1

/-- Prints lines for a command. -/
def printLines (name : String) (lines : List Chars) : Run Nat :=
  print name (lines.flatMap fun l => l ++ ['\n'])

/-- The letters of options, of those that a command knows, and the words after them. -/
def optionLetters (known : String) : List Chars → Run (Chars × List Chars)
  | ['-', '-'] :: words => return ([], words)
  | ('-' :: c :: cs) :: words => do
    match (c :: cs).find? fun d => !known.toList.contains d with
    | some d => fault ("Illegal option -" ++ String.singleton d)
    | none =>
      let (letters, words) ← optionLetters known words
      return (c :: cs ++ letters, words)
  | words => return ([], words)

/-- Prints a format with words in its places. -/
def printFormat (words : List Chars) : Run Nat := do
  let (_, words) ← optionLetters "" words
  match words with
  | [] => fault "usage: printf format [arg ...]"
  | format :: words =>
    let p := printf format words
    (p.complaints ++ p.fault.toList).forM warn
    let written ← print "printf" p.text
    if p.fault.isSome then throw (.fails 2)
    return if p.complaints.isEmpty then written else 1

/-- What a condition can ask about paths. -/
def view (w : World) : Condition.View := fun toEnd path =>
  match w.files.find w.self.directory path toEnd with
  | .ok n =>
    match w.files.content n with
    | .device (.descriptor d) =>
      if toEnd then (w.descriptor? d).map fun o =>
        let node := (w.openedOf o).node
        (node, w.files.node node)
      else some (n, w.files.node n)
    | _ => some (n, w.files.node n)
  | .error _ => none

/-- Decides a condition; in brackets it has to end with one. -/
def decideCondition (name : String) (words : List Chars) : Run Nat := do
  let mut words := words
  if name = "[" then
    if words.getLast? = some [']'] then words := words.dropLast
    else fault "missing ]"
  match Condition.evaluate (view (← world)) words with
  | .ok true => return 0
  | .ok false => return 1
  | .error text => fault text

/-! ## Signals and tasks -/

/-- The short name of a signal. -/
def shortSignalName (n : Nat) : String :=
  if n = 0 then "EXIT"
  else match signalName? n with
    | some s => if n = 16 then "16" else (s.drop 3).toString
    | none =>
      if n < 34 then toString n
      else if n = 34 then "RTMIN"
      else if n < 50 then "RTMIN+" ++ toString (n - 34)
      else if n < 64 then "RTMAX-" ++ toString (64 - n)
      else "RTMAX"

/-- The number of a signal, given by number or by name. -/
def signal? (w : Chars) : Option Nat :=
  match natural? w with
  | some n => if n < 65 then some n else none
  | none =>
    let s := String.ofList (w.map Char.toUpper)
    (List.range 65).find? fun n => shortSignalName n == s && n != 16

/-- How signals are sent. -/
def killUsage : String :=
  "Usage: kill [-s sigspec | -signum | -sigspec] [pid | job]... or\nkill -l [exitstatus]"

/-- The job of a number. -/
def job? (w : Chars) : Run (Option Job) := do
  let jobs := (← shell).jobs
  match w with
  | ['%'] | ['%', '%'] | ['%', '+'] => return jobs.head?
  | ['%', '-'] => return jobs[1]?
  | '%' :: ds => return jobs.find? fun j => some j.number == natural? ds
  | _ => return none

/-- The job that a word has to name. -/
def knownJob (w : Chars) : Run Job := do
  match ← job? w with
  | some j => return j
  | none =>
    fault (if [['%'], ['%', '%'], ['%', '+']].contains w then "No current job"
      else if w = ['%', '-'] then "No previous job"
      else "No such job: " ++ String.ofList w)

/-- Prints the names of all signals, or that of one given by its number or by the exit code that it
makes. -/
def nameSignals (words : List Chars) : Run Nat := do
  match words with
  | [] => printLines "kill" ((List.range 65).map fun n =>
      if n = 0 then ['0'] else (shortSignalName n).toList)
  | w :: _ =>
    let n ← counted w
    let n := if n > 128 then n - 128 else n
    if 0 < n && n < 65 then printLines "kill" [(shortSignalName n).toList]
    else fault ("invalid signal number or exit status: " ++ String.ofList w)

/-- The options of `kill`: letters that are left of a word, and the words after it. Gives whether
signals are to be named, the signal that is to be sent, and the words that are no options. -/
def killOptions (isNaming : Bool) (signal : Option Nat) :
    Chars → List Chars → Run (Bool × Option Nat × List Chars)
  | [], ['-', '-'] :: words => return (isNaming, signal, words)
  | [], ('-' :: c :: cs) :: words => killOptions isNaming signal (c :: cs) words
  | [], words => return (isNaming, signal, words)
  | 'l' :: cs, words => killOptions true signal cs words
  | ['s'], [] => fault "No arg for -s option"
  | ['s'], name :: words => do killOptions isNaming (some (← named name)) [] words
  | 's' :: name, words => do killOptions isNaming (some (← named name)) [] words
  | c :: _, _ => fault ("Illegal option -" ++ String.singleton c)
termination_by cs words => (words.length, cs.length)
where
  /-- The signal of a name. -/
  named (name : Chars) : Run Nat :=
    match signal? name with
    | some n => return n
    | none => fault ("invalid signal number or name: " ++ String.ofList name)

/-- Sends a signal to tasks, or names signals. -/
def sendSignal (words : List Chars) : Run Nat := do
  let first := match words with
    | ('-' :: option) :: _ => signal? option
    | _ => none
  let (isNaming, signal, targets) ← match first with
    | some n => pure (false, some n, words.tail)
    | none => killOptions false none [] words
  if isNaming && (signal.isNone || targets.isEmpty) then nameSignals targets
  else if isNaming then fault killUsage
  else sendTo (signal.getD 15) targets
where
  /-- Sends a signal. -/
  sendTo (signal : Nat) (targets : List Chars) : Run Nat := do
    if targets.isEmpty then fault killUsage
    let mut status := 0
    for target in targets do
      -- A job or a negative number means a group of processes, but all are in that of the script.
      let number ← match target with
        | '%' :: _ => do
          let _ ← knownJob target
          pure none
        | '-' :: ds => do
          let _ ← counted ds
          pure none
        | ds => pure (some (← counted ds))
      let isSent ← match number with
        | some n => Act.update fun w => w.send n signal
        | none => pure false
      unless isSent do
        warn "No such process\n"
        status := 1
    return status

/-- Waits for tasks. -/
def wait (words : List Chars) : Run Nat := do
  let interrupted : Run Nat := do
    let t := (← world).self
    return 128 + (t.pending.find? t.caught.contains).getD 0
  match words with
  | [] =>
    let running := (← shell).jobs.flatMap Job.tasks
    change fun s => { s with jobs := s.jobs.map fun j => { j with isOld := true } }
    if ← waitQuietly running then return 0 else interrupted
  | words =>
    let mut status := 127
    for w in words do
      let tasks ← match w with
        | '%' :: _ => do
          let j ← knownJob w
          pure j.tasks
        | w => do
          let n ← counted w
          pure ((((← shell).jobs.find? fun j => j.tasks.getLast? == some n).map Job.tasks).getD [])
      if tasks.isEmpty then status := 127
      else if ← waitFor tasks true waitLimit then
        let endings := (← shell).endings
        status := (tasks.getLast?.bind fun n => endings.lookup n).elim 127 statusOf
      else return ← interrupted
    return status
where
  /-- Waits for tasks and says nothing of how they end. -/
  waitQuietly (tasks : List Nat) : Run Bool := do
    let mut isDone := true
    for n in tasks do
      if isDone then isDone ← waitUntil n waitLimit
    return isDone
  /-- Waits for a task, as one among others. -/
  waitUntil (n : Nat) : Nat → Run Bool
    | 0 => return true
    | fuel + 1 => do
      if ((← shell).endings.lookup n).isSome then return true
      Act.await fun w => (endedChild? w).isSome || isInterrupted w ||
        !(w.tasks.any fun t => t.parent == w.current && !t.isCollected)
      let w ← world
      match endedChild? w with
      | some t =>
        Act.change fun w => w.modifyTask t.number fun t => { t with isCollected := true }
        change fun s =>
          { s with endings := (t.number, t.ending.getD (.exited 0)) :: s.endings }
        waitUntil n fuel
      | none => return !isInterrupted w

/-- What is said of a job: its number, whether it is the current one, and how it is; with its tasks
if they are `numbered`. -/
def jobLine (s : Environment) (numbered : Bool) (j : Job) : Chars :=
  let sign := if some j.number = (s.jobs[0]?.map Job.number) then '+'
    else if some j.number = (s.jobs[1]?.map Job.number) then '-' else ' '
  let state := match j.tasks.getLast?.bind fun n => s.endings.lookup n with
    | none => "Running"
    | some (.exited 0) => "Done"
    | some (.exited n) => "Done(" ++ toString n ++ ")"
    | some (.killed n) => signalText n
  let isRunning := j.tasks.any fun n => (s.endings.lookup n).isNone
  let state := (if isRunning then "Running" else state).toList
  let front := ['['] ++ decimal j.number ++ [']', ' ', sign, ' ']
  match numbered, j.tasks with
  | true, n :: ns =>
    let rows := ns.map fun n => " |\n".toList ++
      leftIn 32 (List.replicate (decimal j.number).length ' ' ++ "     ".toList ++ decimal n) ++
      [' ']
    leftIn 32 (front ++ decimal n ++ ' ' :: state) ++ ' ' :: rows.flatten
  | _, _ => leftIn 32 (front ++ state) ++ ' ' :: (j.tasks.drop 1).flatMap fun _ => " | ".toList

/-- Notes the tasks of the shell that have ended. -/
def noteEndings : Run Unit := do
  let w ← world
  for t in w.tasks.filter fun t => t.ending.isSome && !t.isCollected && t.parent == w.current do
    Act.change fun w => w.modifyTask t.number fun t => { t with isCollected := true }
    change fun s => { s with endings := (t.number, t.ending.getD (.exited 0)) :: s.endings }

/-- Lists jobs; those that are done are forgotten then. -/
def listJobs (words : List Chars) : Run Nat := do
  let (letters, words) ← optionLetters "lp" words
  let list (j : Job) : Run Nat := do
    let s ← shell
    if letters.contains 'p' then printLines "jobs" [decimal (j.tasks.headD 0)]
    else
      if j.tasks.all fun n => (s.endings.lookup n).isSome then
        change fun s => { s with jobs := s.jobs.filter fun i => i.number != j.number }
      printLines "jobs" [jobLine s (letters.contains 'l') j]
  let mut status := 0
  if words.isEmpty then
    noteEndings
    for j in (← shell).jobs do
      status := max status (← list j)
  else
    for w in words do
      status := max status (← list (← knownJob w))
  return status

/-- Brings a job to the front, which needs a terminal. -/
def bringJob (words : List Chars) : Run Nat := do
  match words with
  | [] =>
    if (← shell).jobs.isEmpty then fault "No current job"
    else fault "job (null) not created under job control"
  | w :: _ =>
    let _ ← knownJob w
    fault ("job " ++ String.ofList w ++ " not created under job control")

/-- The actions on signals as commands that set them. -/
def listTraps : Run Nat := do
  let traps := (← shell).traps.mergeSort fun x y => x.1 ≤ y.1
  printLines "trap" (traps.map fun (n, action) =>
    "trap -- ".toList ++ enquoted action ++ ' ' :: (shortSignalName n).toList)

/-- Says what is run on signals. -/
def setTraps (words : List Chars) : Run Nat := do
  let (_, words) ← optionLetters "" words
  if words.isEmpty then listTraps
  else
    let (action, signals) : Option Chars × List Chars := match words with
      | [w] => (none, [w])
      | w :: rest =>
        if (natural? w).isSome then (none, w :: rest)
        else (if w = ['-'] then none else some w, rest)
      | [] => (none, [])
    for w in signals do
      match signal? w with
      | some n =>
        change fun s =>
          let others := s.traps.filter fun t => t.1 != n
          { s with traps := match action with
            | some a => (n, a) :: others
            | none => others }
        heedTraps
      | none =>
        complain ("trap: ".toList ++ w ++ ": bad trap".toList)
        return 1
    return 0

/-! ## Reading -/

/-- The words of a line for a number of names; the last one takes what is left. -/
def lineFields (separators : Chars) : Nat → Chars → List Chars
  | 0, _ => []
  | 1, cs => [(cs.reverse.dropWhile fun c => isWhite c && separators.contains c).reverse]
  | n + 2, cs =>
    let (word, rest) := cs.span fun c => !separators.contains c
    let blank (c : Char) : Bool := isWhite c && separators.contains c
    let rest := rest.dropWhile blank
    let rest := match rest with
      | c :: more => if separators.contains c then more.dropWhile blank else rest
      | [] => rest
    word :: lineFields separators (n + 1) rest

/-- A line without the backslashes that quote and without the ends that they take away, and whether
the line has an end. -/
def plainLine (raw : Bool) : Chars → Chars × Bool
  | [] => ([], false)
  | '\n' :: _ => ([], true)
  | '\\' :: c :: cs =>
    if raw then
      if c == '\n' then (['\\'], true)
      else
        let (line, ended) := plainLine raw cs
        ('\\' :: c :: line, ended)
    else
      let (line, ended) := plainLine raw cs
      (if c == '\n' then line else c :: line, ended)
  | c :: cs =>
    let (line, ended) := plainLine raw cs
    (c :: line, ended)

/-- Reads a line, and goes on where its end is taken away, in at most `fuel` lines. -/
def readJoined (raw : Bool) : Nat → Chars → Run Chars
  | 0, text => return text
  | fuel + 1, text => do
    match ← Act.readLine 0 with
    | .error _ | .ok [] => return text
    | .ok line =>
      let text := text ++ line.filter fun c => c.toNat != 0
      if raw || (plainLine raw text).2 || line.getLast? != some '\n' then return text
      else readJoined raw fuel text

/-- Whether backslashes stand for themselves in a line that is read, and the words after the
options that say so. A prompt is shown to nobody here. -/
def readOptions (raw : Bool) : List Chars → Run (Bool × List Chars)
  | ['-', '-'] :: names => return (raw, names)
  | ('-' :: c :: letters) :: names => do
    match (c :: letters).dropWhile (· == 'r') with
    | [] => readOptions true names
    | 'p' :: attached =>
      match attached, names with
      | [], _ :: names => readOptions (raw || c == 'r') names
      | [], [] => fault "No arg for -p option"
      | _, names => readOptions (raw || c == 'r') names
    | c :: _ => fault ("Illegal option -" ++ String.singleton c)
  | names => return (raw, names)

/-- Reads a line into variables. -/
def readLineInto (words : List Chars) : Run Nat := do
  let (raw, names) ← readOptions false words
  if names.isEmpty then fault "arg count"
  match names.find? fun x => !isName x with
  | some x => fault (String.ofList x ++ ": bad variable name")
  | none => pure ()
  let (line, ended) := plainLine raw (← readJoined raw waitLimit [])
  let separators := (← valueOf? "IFS".toList).getD [' ', '\t', '\n']
  let line := line.dropWhile fun c => isWhite c && separators.contains c
  (names.zip (lineFields separators names.length line)).forM fun (name, value) =>
    assign name (some value)
  return if ended then 0 else 1

/-- Options that a script reads from its arguments one by one: the words to read from, how many of
them have been read, and how far into the last one. -/
structure OptionReading where
  letter : Char := '?'
  /-- The value of the option; `none` leaves it as it is. -/
  value : Option (Option Chars) := none
  complaint : Option String := none
  isDone : Bool := false
  index : Nat
  offset : Nat := 0

/-- Reads the next option. -/
def nextOption (known : Chars) (words : List Chars) (index offset : Nat) : OptionReading :=
  let inWord : Option Chars :=
    if index ≤ 1 || offset = 0 then none
    else (words[index - 2]?).bind fun w =>
      if offset < w.length then some (w.drop offset) else none
  let start : Option (Chars × Nat) := match inWord with
    | some cs => some (cs, index)
    | none => match words[index - 1]? with
      | some ('-' :: c :: cs) => if c == '-' && cs.isEmpty then none else some (c :: cs, index + 1)
      | _ => none
  match start with
  | none =>
    { isDone := true
      index := if words[index - 1]? = some ['-', '-'] && inWord.isNone then index + 1 else index }
  | some ([], index) => { isDone := true, index }
  | some (c :: rest, index) =>
    let isSilent := known.head? = some ':'
    let offset := if rest.isEmpty then 0
      else ((words[index - 2]?).getD []).length - rest.length
    match findOption c known with
    | none =>
      { letter := '?', index, offset
        value := some (if isSilent then some [c] else none)
        complaint := if isSilent then none else some ("Illegal option -" ++ String.singleton c) }
    | some false => { letter := c, index, offset, value := some (some []) }
    | some true =>
      if !rest.isEmpty then { letter := c, index, value := some (some rest) }
      else match words[index - 1]? with
        | some w => { letter := c, index := index + 1, value := some (some w) }
        | none =>
          if isSilent then { letter := ':', index, value := some (some [c]) }
          else { letter := '?', index, value := some none
                 complaint := some ("No arg for -" ++ String.singleton c ++ " option") }
where
  /-- Whether an option of a letter takes a value, if there is one. -/
  findOption (c : Char) : Chars → Option Bool
    | [] => none
    | [d] => if c == d then some false else none
    | d :: ':' :: rest => if c == d then some true else findOption c rest
    | d :: rest => if c == d then some false else findOption c rest

/-- Reads the next option of the script. -/
def readOption (words : List Chars) : Run Nat := do
  match words with
  | known :: name :: given =>
    let s ← shell
    let words := if given.isEmpty then s.arguments else given
    let index := ((s.values.lookup "OPTIND".toList).bind natural?).getD 1
    let r := nextOption known words (max index 1) s.optionOffset
    match r.complaint with
    | some text => complain text.toList
    | none => pure ()
    match r.value with
    | some v => assign "OPTARG".toList v
    | none => pure ()
    assign "OPTIND".toList (some (decimal r.index))
    if !isName name then fault (String.ofList name ++ ": bad variable name")
    assign name (some [r.letter])
    change fun s => { s with optionOffset := r.offset }
    return if r.isDone then 1 else 0
  | _ => fault "Usage: getopts optstring var [arg...]"

/-! ## Parameters and options -/

/-- The letters and the names of options. -/
def optionNames : List (String × Char) :=
  [("errexit", 'e'), ("noglob", 'f'), ("ignoreeof", 'I'), ("interactive", 'i'), ("monitor", 'm'),
    ("noexec", 'n'), ("stdin", 's'), ("xtrace", 'x'), ("verbose", 'v'), ("vi", 'V'), ("emacs", 'E'),
    ("noclobber", 'C'), ("allexport", 'a'), ("notify", 'b'), ("nounset", 'u'), ("privileged", 'p'),
    ("nolog", Char.ofNat 1), ("debug", Char.ofNat 2)]

/-- Turns an option on or off. The letters of those that are on stand in a fixed order. -/
def setOption (isOn : Bool) (c : Char) : Run Unit := do
  if !(optionNames.any fun o => o.2 == c) then
    fault ("Illegal option -" ++ String.singleton c)
  change fun s =>
    let letters := (optionNames.reverse.map Prod.snd).filter fun d =>
      if d == c then isOn else s.options.contains d
    { s with options := letters }

/-- Lists the options, as a table or as commands that set them. -/
def listOptions (isTable : Bool) : Run Nat := do
  let s ← shell
  let isOn (c : Char) : Bool := s.options.contains c
  if isTable then
    printLines "set" ("Current option settings".toList :: optionNames.map fun (name, c) =>
      leftIn 16 name.toList ++ (if isOn c then "on".toList else "off".toList))
  else
    printLines "set" (optionNames.map fun (name, c) =>
      "set ".toList ++ (if isOn c then ['-'] else ['+']) ++ "o ".toList ++ name.toList)

/-- Lists variables in order, behind a word. -/
def listVariables (command : String) (front : Chars) (names : List Chars) : Run Nat := do
  let s ← shell
  let names := names.mergeSort fun x y => !Chars.before y x
  printLines command (names.map fun x => front ++ x ++
    (match s.values.lookup x with
      | some v => '=' :: enquoted v
      | none => []))

/-- Sets options and arguments. -/
def setWords : List Chars → Run Nat
  | [] => return 0
  | w :: words => do
    match w with
    | ['-', '-'] =>
      change fun s => { s with arguments := words }
      return 0
    | ['-'] =>
      setOption false 'x'
      setOption false 'v'
      unless words.isEmpty do change fun s => { s with arguments := words }
      return 0
    | '-' :: 'o' :: _ | '+' :: 'o' :: _ =>
      match words with
      | name :: rest =>
        match optionNames.lookup (String.ofList name) with
        | some c =>
          setOption (w.head? = some '-') c
          setWords rest
        | none => fault ("Illegal option -o " ++ String.ofList name)
      | [] => listOptions (w.head? = some '-')
    | '-' :: c :: letters =>
      (c :: letters).forM (setOption true)
      setWords words
    | '+' :: c :: letters =>
      (c :: letters).forM (setOption false)
      setWords words
    | _ =>
      change fun s => { s with arguments := w :: words }
      return 0

/-- Sets options and arguments, or lists the variables. -/
def setOrList (words : List Chars) : Run Nat := do
  if words.isEmpty then listVariables "set" [] ((← shell).values.map Prod.fst)
  else setWords words

/-- Declares variables, with values for some: `first` is done before a variable gets its value, and
`last` after that. -/
def declare (first last : Chars → Run Unit) (words : List Chars) : Run Nat := do
  for w in words do
    let (key, value) := w.span (· != '=')
    if !isName key then fault (String.ofList key ++ ": bad variable name")
    first key
    unless value.isEmpty do assign key (some value.tail)
    last key
  return 0

/-- Declares variables of a kind, or lists those of it. -/
def declareKind (command : String) (names : List Chars) (last : Chars → Run Unit)
    (words : List Chars) : Run Nat := do
  match words with
  | [] | ['-', 'p'] :: _ => listVariables command (command.toList ++ [' ']) names
  | ['-', '-'] :: words => declare (fun _ => return ()) last words
  | ('-' :: c :: _) :: _ => fault ("Illegal option -" ++ String.singleton c)
  | words => declare (fun _ => return ()) last words

/-- Takes variables or functions away. -/
def unset (words : List Chars) : Run Nat := do
  let (letters, words) ← optionLetters "fv" words
  for w in words do
    if letters.getLast? = some 'f' then
      change fun s => { s with functions := s.functions.filter fun f => f.1 != w }
    else
      if !isName w then fault (String.ofList w ++ ": bad variable name")
      assign w none
      change fun s => { s with exported := s.exported.filter (· != w) }
  return 0

/-- Leaves loops. -/
def leave (jump : Nat → Jump) (words : List Chars) : Run Nat := do
  let n ← match words with
    | w :: _ => counted w
    | [] => pure 1
  if n = 0 then fault "Illegal number: 0"
  let loops := (← shell).loops
  if loops = 0 then return 0
  else
    setStatus 0
    throw (jump (min n loops))

/-- Drops the first arguments. -/
def shift (words : List Chars) : Run Nat := do
  let n ← match words with
    | w :: _ => counted w
    | [] => pure 1
  if (← shell).arguments.length < n then fault "can't shift that many"
  change fun s => { s with arguments := s.arguments.drop n, optionOffset := 0 }
  return 0

/-- An alias with what it stands for. -/
def aliasLine (a : Chars × Chars) : Chars := a.1 ++ '=' :: enquoted a.2

/-- Lets words stand for others, or lists those that do. -/
def setAliases (words : List Chars) : Run Nat := do
  if words.isEmpty then
    printLines "alias" ((byDrawer 39 (← shell).aliases).map aliasLine)
  else
    let mut status := 0
    for w in words do
      let (name, text) := (w.take 1 ++ (w.drop 1).takeWhile (· != '='),
        (w.drop 1).dropWhile (· != '='))
      match text with
      | _ :: text =>
        change fun s => { s with
          aliases :=
            if (s.aliases.lookup name).isSome then
              s.aliases.map fun a => if a.1 == name then (name, text) else a
            else s.aliases ++ [(name, text)] }
      | [] =>
        match (← shell).aliases.lookup name with
        | some text =>
          let _ ← printLines "alias" [aliasLine (name, text)]
        | none =>
          complain ("alias: ".toList ++ w ++ " not found".toList)
          status := 1
    return status

/-- Takes aliases away. -/
def unsetAliases (words : List Chars) : Run Nat := do
  let (letters, words) ← optionLetters "a" words
  if letters.contains 'a' then
    change fun s => { s with aliases := [] }
    return 0
  else
    let mut status := 0
    for w in words do
      if ((← shell).aliases.lookup w).isSome then
        change fun s => { s with aliases := s.aliases.filter fun a => a.1 != w }
      else
        complain ("unalias: ".toList ++ w ++ " not found".toList)
        status := 1
    return status

/-! ## Directories -/

/-- The path of the directory that a task is in. -/
def directoryPath (w : World) : Chars := w.files.pathOf 100 w.self.directory

/-- A path from the top without steps that lead nowhere or back. -/
def normalized (path : Chars) : Chars :=
  let names := (Chars.splitAt '/' path).foldl (fun names name =>
    if name.isEmpty || name == selfName then names
    else if name == aboveName then names.tail
    else name :: names) []
  if names.isEmpty then ['/'] else names.reverse.flatMap fun x => '/' :: x

/-- The directory of the shell in the words of the script. -/
def currentPath : Run Chars := do
  let physical := directoryPath (← world)
  return ((← valueOf? "PWD".toList).filter fun p => p.head? = some '/').getD physical

/-- Goes to another directory. -/
def changeDirectory (words : List Chars) : Run Nat := do
  let (letters, words) ← optionLetters "LP" words
  let isPhysical := letters.getLast? = some 'P'
  let old ← currentPath
  let (path, isShown) ← match words with
    | [] => pure ((← valueOf? "HOME".toList).getD [], false)
    | ['-'] :: _ => pure ((← valueOf? "OLDPWD".toList).getD old, true)
    | path :: _ => pure (path, false)
  let w ← world
  let others := ((← valueOf? "CDPATH".toList).map (Chars.splitAt ':')).getD []
  let tries := match path with
    | '/' :: _ => [(path, false)]
    | '.' :: '/' :: _ | '.' :: '.' :: '/' :: _ | ['.'] | ['.', '.'] => [(path, false)]
    | _ => others.map (fun (d : Chars) =>
        if d.isEmpty then (path, false) else (d ++ '/' :: path, true)) ++ [(path, false)]
  let target? (path : Chars) : Option (Chars × Nat) :=
    let whole := if isPhysical || path.head? = some '/' then path else old ++ '/' :: path
    let whole := if isPhysical then whole else normalized whole
    match w.files.find w.self.directory whole with
    | .ok n => if (w.files.content n).isDirectory then some (whole, n) else none
    | .error _ => none
  if path.isEmpty then return 0
  match tries.findSome? fun (p, shows) => (target? p).map fun t => (t, shows) with
  | none => fault ("can't cd to " ++ String.ofList path)
  | some ((whole, n), shows) =>
    modifyTask fun t => { t with directory := n }
    let here := directoryPath (← world)
    let new := if isPhysical then here else whole
    assign "OLDPWD".toList (some old)
    assign "PWD".toList (some new)
    reveal "OLDPWD".toList
    reveal "PWD".toList
    if isShown || shows then printLines "cd" [new] else return 0

/-- Prints the directory that the shell is in. -/
def printDirectory (words : List Chars) : Run Nat := do
  let (letters, _) ← optionLetters "LP" words
  let path ← if letters.getLast? = some 'P' then pure (directoryPath (← world)) else currentPath
  printLines "pwd" [path]

/-- Shows or sets the permissions that new files do not get. -/
def setMask (words : List Chars) : Run Nat := do
  let mask := (← world).self.withheld
  match words with
  | [] => printLines "umask" [leftZeros (Nat.toDigits 8 mask)]
  | ['-', '-'] :: rest => setMask rest
  | ['-', 'S'] :: w :: rest => setMask (w :: rest)
  | [['-', 'S']] =>
    let letters (n : Nat) : Chars :=
      (if mask / n % 8 / 4 % 2 = 0 then ['r'] else []) ++
      (if mask / n % 8 / 2 % 2 = 0 then ['w'] else []) ++
      (if mask / n % 2 = 0 then ['x'] else [])
    printLines "umask" ["u=".toList ++ letters 64 ++ ",g=".toList ++ letters 8 ++
      ",o=".toList ++ letters 1]
  | ('-' :: letter :: _) :: _ => fault ("Illegal option -" ++ String.singleton letter)
  | w :: _ =>
    if w.all isOctal && !w.isEmpty then
      let n := (digits 8 0 w).1 % 512
      modifyTask fun t => { t with withheld := n }
      return 0
    else if (w.head?.map Char.isDigit).getD false then fault ("Illegal number: " ++ String.ofList w)
    else match (Chars.splitAt ',' w).foldlM changed (0o777 - mask) with
      | none => fault ("Illegal mode: " ++ String.ofList w)
      | some given =>
        modifyTask fun t => { t with withheld := 0o777 - given }
        return 0
where
  /-- The permissions that a clause in letters makes of others. -/
  changed (given : Nat) (clause : Chars) : Option Nat :=
    let bits (names : List (Char × Nat)) (cs : Chars) : Nat :=
      cs.foldl (fun n c => n ||| (names.lookup c).getD 0) 0
    let (who, rest) := clause.span "ugoa".toList.contains
    let all := if who.isEmpty then 0o777
      else bits [('u', 0o700), ('g', 0o070), ('o', 0o007), ('a', 0o777)] who
    match rest with
    | operator :: rights =>
      let named := bits [('r', 0o444), ('w', 0o222), ('x', 0o111)] rights &&& all
      if !rights.all "rwx".toList.contains then none
      else match operator with
        | '=' => some ((given &&& (0o777 - all)) ||| named)
        | '+' => some (given ||| named)
        | '-' => some (given &&& (0o777 - named))
        | _ => none
    | [] => none
  /-- Digits after zeros, four in all. -/
  leftZeros (ds : Chars) : Chars := List.replicate (4 - ds.length) '0' ++ ds

/-- Shows a limit of the shell; none can be set. -/
def showLimit (words : List Chars) : Run Nat := do
  let letter := (words.findSome? fun w => match w with
    | '-' :: cs => (cs.filter fun c => c != 'H' && c != 'S').getLast?
    | _ => none).getD 'f'
  if words.any fun w => w.head? != some '-' then return 0
  else printLines "ulimit" [match letter with
    | 'n' => "1024".toList
    | 's' => "8192".toList
    | 'c' => ['0']
    | _ => "unlimited".toList]

/-! ## Programs -/

/-- The keywords that `type` knows. -/
def isKeyword (name : Chars) : Bool := keywordNames.contains (String.ofList name)
where
  /-- The words that mean something where a command begins. -/
  keywordNames : List String :=
    ["!", "case", "do", "done", "elif", "else", "esac", "fi", "for", "if", "in", "then", "until",
      "while", "\x7b", "\x7d"]

/-- The directories in which programs are looked for. -/
def programPath : Run (List Chars) := do
  let text := (← valueOf? "PATH".toList).getD
    "/usr/local/sbin:/usr/local/bin:/usr/sbin:/usr/bin:/sbin:/bin".toList
  return Chars.splitAt ':' text

/-- The paths that a name may stand for. -/
def placesOf (name : Chars) : Run (List Chars) := do
  return (← programPath).map fun d => if d.isEmpty then name else d ++ '/' :: name

/-- The node of a program at a path: a file that may be run. -/
def programAt (w : World) (path : Chars) : Except Refusal Nat := do
  let n ← w.files.find w.self.directory path
  match w.files.content n with
  | .program _ => return n
  | .file _ _ => if (w.files.node n).mode &&& 0o111 = 0 then throw .denied else return n
  | _ => throw .denied

/-- The first of some paths at which there is a program, with its node. If there is none, the
refusal is the last one that says more than that nothing is there. -/
def firstProgram (w : World) : List Chars → Refusal → Except Refusal (Nat × Chars)
  | [], e => .error e
  | path :: paths, e =>
    match programAt w path with
    | .ok n => .ok (n, path)
    | .error .missing | .error .notDirectory => firstProgram w paths e
    | .error e => firstProgram w paths e

/-- Where the program of a name is; what has a slash is a path, of whatever is there. -/
def findProgram (name : Chars) : Run (Except Refusal Chars) := do
  let w ← world
  if name.contains '/' then
    return (w.files.find w.self.directory name).map fun _ => name
  return (firstProgram w (← placesOf name) .missing).map Prod.snd

/-- Where a program is, and notes it. -/
def locateProgram (name : Chars) : Run (Except Refusal Chars) := do
  if name.contains '/' then return .ok name
  match (← shell).places.lookup name with
  | some path => return .ok path
  | none =>
    let found ← findProgram name
    if let .ok path := found then change fun s => { s with places := s.places ++ [(name, path)] }
    return found

/-- Where the file is that a name leads to, in the directories of programs. -/
def findFile (name : Chars) : Run (Option Chars) := do
  let w ← world
  return (← placesOf name).find? fun path =>
    match w.files.find w.self.directory path with
    | .ok n => (match w.files.content n with
      | .file _ _ | .program _ => true
      | _ => false)
    | .error _ => false

end SchemaCheck.Testing.Shell
