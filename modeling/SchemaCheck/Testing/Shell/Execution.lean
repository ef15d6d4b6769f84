import SchemaCheck.Testing.Shell.Builtin
import SchemaCheck.Testing.Shell.Reading
import SchemaCheck.Testing.Tools

/-!
# Running scripts

What the commands of a script do: they run one after another, side by side, or one in place of
another, each in the shell or in a task of its own. This module ties the commands to the state of
the shell and to the programs that it starts. Running descends a bounded number of steps, which a
script that is meant to end does not use up.
-/

namespace SchemaCheck.Testing.Shell

open Host Run Tools

/-- How a command is run: whether its exit code is tested, so that it ends no script, and whether
nothing follows it, so that a program can take the place of the shell. -/
structure Mode where
  isTested : Bool := false
  isLast : Bool := false

/-- The mode of a command that others follow. -/
def Mode.inner (m : Mode) : Mode := { m with isLast := false }

/-- The mode of a command whose exit code is tested. -/
def Mode.tested : Mode := { isTested := true }

/-- The mode of a command that a task is for. -/
def Mode.last : Mode := { isLast := true }

/-- Runs the body of a loop once, and says whether the loop goes on. -/
def goesOn (a : Run Unit) : Run Bool :=
  try
    a
    return true
  catch
    | .breaks n => if n ≤ 1 then return false else throw (.breaks (n - 1))
    | .continues n => if n ≤ 1 then return true else throw (.continues (n - 1))
    | j => throw j

/-- Runs a loop around an action. -/
def inLoop (a : Run Unit) : Run Unit := do
  let loops := (← shell).loops
  change fun s => { s with loops := loops + 1 }
  finishing a (change fun s => { s with loops })

/-- Runs the body of a function with its own arguments, loops and variables. No more than a thousand
run within one another. -/
def inFunction (arguments : List Chars) (a : Run Unit) : Run Unit := do
  let before ← shell
  if before.depth ≥ 1000 then fatal "Maximum function recursion depth (1000) reached"
  change fun s => { s with
    arguments, locals := some [], depth := before.depth + 1, loops := 0 }
  let returning : Run Unit :=
    try
      a
    catch
      | .returns status => setStatus status
      | j => throw j
  finishing returning do
    (((← shell).locals).getD []).forM fun (name, value) => putVariable name value
    change fun s => { s with
      arguments := before.arguments, locals := before.locals, depth := before.depth
      loops := before.loops, optionOffset := before.optionOffset }

/-- Runs an action; where it gives up, its exit code is that of the command. -/
def settled (a : Run Nat) : Run Unit := do
  let status ←
    try a
    catch
      | .fails status => pure status
      | j => throw j
  setStatus status

/-- Runs an action; where it gives up, the script ends. -/
def binding {α : Type} (a : Run α) : Run α :=
  try a
  catch
    | .fails status => throw (.exits status)
    | j => throw j

/-- Ends the script when a command has failed, if an option asks for it. -/
def checkStatus (m : Mode) : Run Unit := do
  let s ← shell
  if !m.isTested && s.status ≠ 0 && s.options.contains 'e' then throw (.exits s.status)

/-- Runs an action with variables that have values only for it; programs see them. -/
def withVariables (given : List (Chars × Chars)) (a : Run Nat) : Run Nat := do
  let before ← shell
  for (name, value) in given do
    binding (assign name (some value))
    reveal name
  finishing a do
    for (name, _) in given do
      putVariable name (before.values.lookup name)
      unless before.exported.contains name do
        change fun s => { s with exported := s.exported.filter (· != name) }

/-- How a shell is started: the options that are on, whether commands are among its words, whether
it reads commands from its input, and the words after the options. -/
structure Start where
  options : Chars := []
  isCommand : Bool := false
  isInput : Bool := false
  words : List Chars := []

/-- How words start a shell, after options that have been read, or what is wrong with them. -/
def Start.ofWords (s : Start) : List Chars → Except String Start
  | [] => .ok s
  | ['-'] :: words | ['-', '-'] :: words => .ok { s with words }
  | ['-', 'o'] :: name :: words =>
    match optionNames.lookup (String.ofList name) with
    | some c => Start.ofWords { s with options := c :: s.options } words
    | none => .error ("Illegal option -o " ++ String.ofList name)
  | ('-' :: letters) :: words =>
    match letters.find? fun c => c != 'c' && !(optionNames.any fun o => o.2 == c) with
    | some c => .error ("Illegal option -" ++ String.singleton c)
    | none =>
      Start.ofWords { s with
        options := letters.filter (fun c => c != 'c' && c != 's') ++ s.options
        isCommand := s.isCommand || letters.contains 'c'
        isInput := s.isInput || letters.contains 's' } words
  | ('+' :: letters) :: words =>
    Start.ofWords { s with options := s.options.filter fun c => !letters.contains c } words
  | words => .ok { s with words }

/-- Starts a shell with words; `run` runs the commands that it is given. -/
def startShell (program : Chars) (words : List Chars) (run : Chars → Run Unit) : Run Unit := do
  let refuse (text : Chars) : Run Unit := do
    complain (program ++ ": 0: ".toList ++ text)
    throw (.exits 2)
  match Start.ofWords {} words with
  | .error text => refuse text.toList
  | .ok s =>
    change fun e => { e with name := program, options := s.options }
    match s.isCommand, s.isInput, s.words with
    | true, _, [] => refuse "-c requires an argument".toList
    | true, _, script :: words =>
      change fun e => { e with name := words.headD program, arguments := words.tail }
      run script
    | false, false, path :: words =>
      match ← readPath path with
      | .ok cs =>
        change fun e => { e with name := path, arguments := words }
        run cs
      | .error .isDirectory => return ()
      | .error e => refuse ("cannot open ".toList ++ path ++
          (": " ++ refusalText false e).toList)
    | false, _, words =>
      change fun e => { e with arguments := words }
      match ← Act.readAll 0 with
      | .ok cs => run cs
      | .error _ => return ()

/-- The variables that a shell starts with, after those that it is given. -/
def startValues (w : World) (given : List (Chars × Chars)) : List (Chars × Chars) :=
  let directory := directoryPath w
  let isHere (path : Chars) : Bool :=
    path.head? = some '/' && (match w.files.find 0 path with
      | .ok n => n == w.self.directory
      | .error _ => false)
  let own : List (Chars × Chars) := [
    ("IFS".toList, [' ', '\t', '\n']), ("OPTIND".toList, ['1']), ("PS1".toList, "# ".toList),
    ("PS2".toList, "> ".toList), ("PS4".toList, "+ ".toList),
    ("PPID".toList, decimal w.self.parent)]
  let path : List (Chars × Chars) :=
    if (given.lookup "PATH".toList).isSome then []
    else [("PATH".toList, "/usr/local/sbin:/usr/local/bin:/usr/sbin:/usr/bin:/sbin:/bin".toList)]
  let here := match given.lookup "PWD".toList with
    | some d => if isHere d then d else directory
    | none => directory
  let names := own.map Prod.fst ++ ["PWD".toList]
  own ++ path ++ [("PWD".toList, here)] ++
    given.filter fun v => isName v.1 && !names.contains v.1

/-- The interpreter that the first line of a file asks for, with a word for it. -/
def interpreter? (text : Chars) : Option (Chars × List Chars) :=
  match text with
  | '#' :: '!' :: rest =>
    let line := (rest.takeWhile (· != '\n')).dropWhile isBlank
    let (program, word) := line.span fun c => !isBlank c
    let word := ((word.dropWhile isBlank).reverse.dropWhile isBlank).reverse
    if program.isEmpty then none
    else some (program, if word.isEmpty then [] else [word])
  | _ => none

/-- The node that a path or a name of a program leads to, and its path; names are looked for in the
directories that a variable lists. -/
def programNode (w : World) (c : Tools.Invocation) : Except Refusal (Nat × Chars) := do
  let (n, path) ← if c.name.contains '/' then (programAt w c.name).map fun n => (n, c.name)
    else if c.name.isEmpty then .error .missing
    else
      let places := Chars.splitAt ':' ((c.environment.lookup "PATH".toList).getD
        "/bin:/usr/bin".toList)
      firstProgram w (places.map fun d => if d.isEmpty then c.name else d ++ '/' :: c.name)
        .missing
  if let .file _ _ := w.files.content n then
    if let some (interpreter, _) := interpreter? (w.files.content n).text then
      let _ ← programAt w interpreter
  return (n, path)

/-- Shows a command before it runs, on the errors as they were, if an option asks for it. -/
def showCommand (descriptors : List (Nat × Nat)) (front : Chars) (words : List Chars) :
    Run Unit := do
  keepingDescriptors do
    modifyTask fun t => { t with descriptors }
    complain (front ++ Chars.spaced words)

/-- Adds a job, in the place of one that has been waited for. -/
def addJob (tasks : List Nat) : Run Unit :=
  change fun s =>
    let isDone (j : Job) : Bool := j.isOld && j.tasks.all fun n => (s.endings.lookup n).isSome
    let jobs := match s.jobs.reverse.find? isDone with
      | some j => s.jobs.filter fun i => i.number != j.number
      | none => s.jobs
    let number := ((List.range (jobs.length + 1)).map (· + 1)).find? (fun n =>
      !(jobs.any fun j => j.number == n)) |>.getD 1
    { s with jobs := { number, tasks } :: jobs, lastTask := tasks.getLast?, status := 0 }

/-- The commands that are a part of the shell and need nothing but its state. -/
def builtin? (name : String) : Option (List Chars → Run Nat) :=
  match name with
  | ":" | "true" => some fun _ => return 0
  | "false" => some fun _ => return 1
  | "echo" => some fun words => print "echo" (echo words)
  | "printf" => some printFormat
  | "test" | "[" => some (decideCondition name)
  | "kill" => some sendSignal
  | "exit" => some fun words => do
    let status ← match words with
      | w :: _ => counted w
      | [] => pure (← shell).status
    throw (.exits (status % 256))
  | "return" => some fun words => do
    let status ← match words with
      | w :: _ => counted w
      | [] => pure (← shell).status
    throw (.returns status)
  | "break" => some (leave .breaks)
  | "continue" => some (leave .continues)
  | "shift" => some shift
  | "set" => some setOrList
  | "export" => some fun words => do
    declareKind "export" (← shell).exported reveal words
  | "readonly" => some fun words => do
    declareKind "readonly" (← shell).readOnly
      (fun x => change fun s => { s with readOnly := x :: s.readOnly }) words
  | "local" => some fun words => do
    if (← shell).locals.isNone then fault "not in a function"
    declare (fun x => do
      let old ← valueOf? x
      change fun s => { s with locals := s.locals.map ((x, old) :: ·) }) (fun _ => return ()) words
  | "unset" => some unset
  | "read" => some readLineInto
  | "getopts" => some readOption
  | "trap" => some setTraps
  | "wait" => some wait
  | "jobs" => some listJobs
  | "fg" | "bg" => some bringJob
  | "pwd" => some printDirectory
  | "cd" | "chdir" => some changeDirectory
  | "umask" => some setMask
  | "ulimit" => some showLimit
  | "times" => some fun _ => printLines "times" (List.replicate 2 "0m0.000000s 0m0.000000s".toList)
  | "alias" => some setAliases
  | "unalias" => some unsetAliases
  | _ => none

/-- Whether a command is a part of the shell. -/
def isBuiltin (name : Chars) : Bool :=
  (builtin? (String.ofList name)).isSome || isSpecialCommand name ||
    ["command".toList, "type".toList, "hash".toList].contains name

/-- What a name stands for where a command begins, in words or as it would be written. -/
def describe (isWordy : Bool) (name : Chars) : Run (Option Chars) := do
  let s ← shell
  let text (wordy : String) : Option Chars :=
    some (if isWordy then name ++ wordy.toList else name)
  if isKeyword name then return text " is a shell keyword"
  match s.aliases.lookup name with
  | some a =>
    return some (if isWordy then name ++ " is an alias for ".toList ++ a
      else "alias ".toList ++ aliasLine (name, a))
  | none =>
    if (s.functions.lookup name).isSome then return text " is a shell function"
    else if isSpecialCommand name then return text " is a special shell builtin"
    else if isBuiltin name then return text " is a shell builtin"
    else match s.places.lookup name with
      | some path =>
        return some (if isWordy then name ++ " is a tracked alias for ".toList ++ path else path)
      | none =>
        match ← findProgram name with
        | .ok path => return some (if isWordy then name ++ " is ".toList ++ path else path)
        | .error _ => return none

/-- Says what names stand for. -/
def typeOf (words : List Chars) : Run Nat := do
  let mut status := 0
  for w in words do
    match ← describe true w with
    | some text =>
      let _ ← printLines "type" [text]
    | none =>
      let _ ← printLines "type" [w ++ ": not found".toList]
      status := 127
  return status

/-- Says what a name stands for, in words or as it would be written. -/
def describeFirst (isWordy : Bool) (words : List Chars) : Run Nat := do
  match words with
  | [] => return 0
  | w :: _ =>
    match ← describe isWordy w with
    | some text => printLines "command" [text]
    | none =>
      if isWordy then
        let _ ← printLines "command" [w ++ ": not found".toList]
      return 127

/-- Why a program is not started, in the words of a shell, and the exit code that this makes. -/
def startRefusal : Refusal → String × Nat
  | .missing | .notDirectory => ("not found", 127)
  | .tooManyLinks => (Refusal.tooManyLinks.text, 127)
  | .nameTooLong => (Refusal.nameTooLong.text, 127)
  | e => (e.text, 126)

/-- Lists the places of programs, looks for programs, or forgets where they are. -/
def hashPlaces (words : List Chars) : Run Nat := do
  match words with
  | [] => printLines "hash" ((byDrawer 31 (← shell).places).map Prod.snd)
  | ['-', 'r'] :: _ =>
    change fun s => { s with places := [] }
    return 0
  | words =>
    let mut status := 0
    for w in words do
      unless isBuiltin w || ((← shell).functions.lookup w).isSome do
        change fun s => { s with places := s.places.filter fun p => p.1 != w }
        if let .error e := ← locateProgram w then
          warnWith (w ++ ": ".toList ++ (startRefusal e).1.toList)
          status := 1
    return status

mutual

/-- Runs commands one after another. -/
def runList (m : Mode) : Nat → List Command → Run Unit
  | 0, _ => throw (.exits 2)
  | _ + 1, [] => return ()
  | fuel + 1, [c] => runCommand m fuel c
  | fuel + 1, c :: cs => do
    runCommand m.inner fuel c
    runList m fuel cs

/-- Runs a command. -/
def runCommand (m : Mode) : Nat → Command → Run Unit
  | 0, _ => throw (.exits 2)
  | fuel + 1, c => do
    if ← hasOption 'n' then return ()
    match c with
    | .simple line assigned words redirections =>
      change fun s => { s with line, printedStatus := 0 }
      runSimple m fuel words assigned redirections
      runTraps fuel
      checkStatus m
    | .pipeline commands =>
      let tasks ← runPipeline (← shell).status false none fuel commands
      setStatus (← statusAfter tasks)
      runTraps fuel
      checkStatus m
    | .negated c =>
      runCommand Mode.tested fuel c
      setStatus (if (← shell).status = 0 then 1 else 0)
    | .both c d =>
      runCommand Mode.tested fuel c
      if (← shell).status = 0 then runCommand m fuel d
    | .either c d =>
      runCommand Mode.tested fuel c
      if (← shell).status ≠ 0 then runCommand m fuel d
    | .background c =>
      let tasks ← match c with
        | .pipeline commands => runPipeline (← shell).status true none fuel commands
        | c => do
          let n ← inSubshell (runAction fuel) do
            enterBackground
            runCommand Mode.last fuel c
          pure [n]
      addJob tasks
      runTraps fuel
    | .block commands => runList m fuel commands
    | .subshell commands =>
      if m.isLast && (← shell).traps.isEmpty then
        enterSubshell
        runList Mode.last fuel commands
      else
        let n ← inSubshell (runAction fuel) (runList { m with isLast := true } fuel commands)
        setStatus (← statusAfter [n])
        runTraps fuel
        checkStatus m
    | .branch condition yes no =>
      runList Mode.tested fuel condition
      if (← shell).status = 0 then runList m fuel yes
      else if no.isEmpty then setStatus 0
      else runList m fuel no
    | .loop outcome condition body => inLoop (runLoop m.inner outcome condition body 0 fuel)
    | .each line name words body =>
      change fun s => { s with line }
      let words ← match words with
        | some ws => expandAll fuel ws
        | none => pure (← shell).arguments
      if words.isEmpty then setStatus 0
      inLoop (runEach m.inner name body words fuel)
    | .choose line word branches =>
      change fun s => { s with line, printedStatus := 0 }
      let cs ← expandWord (printed fuel) word
      runBranch m cs branches fuel
    | .define name body =>
      change fun s => { s with
        functions := (name, body) :: s.functions.filter (fun f => f.1 != name), status := 0 }
    | .redirected line c redirections =>
      change fun s => { s with line }
      let isKept := match c with
        | .subshell _ => false
        | _ => true
      keepingDescriptors do
        let isDone ←
          try
            redirectAll isKept fuel redirections
            pure true
          catch
            | .fails status =>
              setStatus status
              pure false
            | j => throw j
        if isDone then runCommand m.inner fuel c
      checkStatus m

/-- What commands print, without the line ends at the end. -/
def printed : Nat → List Command → Run Chars
  | 0, _ => throw (.exits 2)
  | fuel + 1, commands => do
    let held := (← world).self.held
    let (reading, writing) ← Act.update World.makePipe
    modifyTask fun t => { t with held := reading :: writing :: held }
    let n ← inSubshell (runAction fuel) do
      modifyTask fun t => { t with held }
      Act.change fun w => w.connect 1 (some writing)
      runList Mode.last fuel commands
    let before := (← world).self.descriptors
    modifyTask fun t => { t with
      held := before.map Prod.snd ++ held, descriptors := [(0, reading)] }
    let cs ← Act.readAll 0
    modifyTask fun t => { t with held, descriptors := before }
    let status ← statusAfter [n]
    change fun s => { s with printedStatus := status }
    let cs := match cs with
      | .ok cs => cs.filter fun (d : Char) => d.toNat != 0
      | .error _ => []
    return (cs.reverse.dropWhile (· == '\n')).reverse

/-- The words that words become. -/
def expandAll : Nat → List Word → Run (List Chars)
  | 0, _ => throw (.exits 2)
  | _ + 1, [] => return []
  | fuel + 1, w :: ws => do
    let here ← expandFully (printed fuel) w
    return here ++ (← expandAll fuel ws)

/-- The words of a command. Behind one that assigns, words that are assignments are not split. -/
def expandCommand : Nat → List Word → Run (List Chars)
  | 0, _ => throw (.exits 2)
  | _ + 1, [] => return []
  | fuel + 1, w :: ws => do
    let first ← expandFully (printed fuel) w
    let assigns := match first.find? fun x => x != "command".toList with
      | some x => ["export".toList, "readonly".toList, "local".toList].contains x
      | none => false
    if first.isEmpty || (first == ["command".toList]) then
      return first ++ (← expandCommand fuel ws)
    else if assigns then return first ++ (← expandAssigning fuel ws)
    else return first ++ (← expandAll fuel ws)

/-- The words of a command that assigns. -/
def expandAssigning : Nat → List Word → Run (List Chars)
  | 0, _ => throw (.exits 2)
  | _ + 1, [] => return []
  | fuel + 1, w :: ws => do
    let here ← match w.assignment? with
      | some (name, value) => do
        let cs ← expandValueWord (printed fuel) value
        pure [name ++ '=' :: cs]
      | none => expandFully (printed fuel) w
    return here ++ (← expandAssigning fuel ws)

/-- Redirects descriptors; `isKept` says that they are to be given back. -/
def redirectAll (isKept : Bool) : Nat → List Redirection → Run Unit
  | 0, _ => throw (.exits 2)
  | _ + 1, [] => return ()
  | fuel + 1, .mk descriptor direction target :: rest => do
    let cs ← if direction = .document then expandText (printed fuel) target
      else expandWord (printed fuel) target
    redirect isKept descriptor direction cs
    redirectAll isKept fuel rest
  | fuel + 1, .awaited descriptor _ :: rest => do
    redirect isKept descriptor .document []
    redirectAll isKept fuel rest

/-- The values that assignments give. -/
def expandAssigned : Nat → List (Chars × Word) → Run (List (Chars × Chars))
  | 0, _ => throw (.exits 2)
  | _ + 1, [] => return []
  | fuel + 1, (name, w) :: rest => do
    let cs ← expandValueWord (printed fuel) w
    return (name, cs) :: (← expandAssigned fuel rest)

/-- Assigns to variables one after another, and gives the assignments. -/
def assignAll : Nat → List (Chars × Word) → Run (List (Chars × Chars))
  | 0, _ => throw (.exits 2)
  | _ + 1, [] => return []
  | fuel + 1, (name, w) :: rest => do
    let cs ← expandValueWord (printed fuel) w
    binding (assign name (some cs))
    return (name, cs) :: (← assignAll fuel rest)

/-- Starts the commands of a pipeline, each in a task of its own: each writes what the next one
reads. Gives the tasks. -/
def runPipeline (status : Nat) (isBackground : Bool) (input : Option Nat) :
    Nat → List Command → Run (List Nat)
  | 0, _ => throw (.exits 2)
  | _ + 1, [] => return []
  | fuel + 1, c :: cs => do
    setStatus status
    let held := (← world).self.held
    let (reading, writing) ← Act.update World.makePipe
    let n ← do
      modifyTask fun t => { t with held := (if cs.isEmpty then [] else [reading, writing]) ++ held }
      inSubshell (runAction fuel) do
        modifyTask fun t => { t with held }
        if isBackground && input.isNone then enterBackground
        if input.isSome then Act.change fun w => w.connect 0 input
        unless cs.isEmpty do Act.change fun w => w.connect 1 (some writing)
        runCommand Mode.last fuel c
    modifyTask fun t => { t with
      held := (if cs.isEmpty then [] else [reading]) ++ held.filter (some · != input) }
    let others ← if cs.isEmpty then pure []
      else runPipeline status isBackground (some reading) fuel cs
    return n :: others

/-- Cuts a task off from the input and from the signals of a terminal. -/
def enterBackground : Run Unit := do
  openAt 0 "/dev/null".toList { reads := true }
  modifyTask fun t => { t with ignored := 2 :: 3 :: t.ignored }

/-- Runs a loop as long as its condition has the outcome; `status` is that of the body before. -/
def runLoop (m : Mode) (outcome : Bool) (condition body : List Command) (status : Nat) :
    Nat → Run Unit
  | 0 => throw (.exits 2)
  | fuel + 1 => do
    let holds ← goesOn (runList Mode.tested fuel condition)
    if holds && ((← shell).status = 0) = outcome then
      if ← goesOn (runList m fuel body) then
        runLoop m outcome condition body (← shell).status fuel
    else if holds then setStatus status

/-- Runs the body of a loop for each word. -/
def runEach (m : Mode) (name : Chars) (body : List Command) : List Chars → Nat → Run Unit
  | _, 0 => throw (.exits 2)
  | [], _ + 1 => return ()
  | w :: ws, fuel + 1 => do
    binding (assign name (some w))
    if ← goesOn (runList m fuel body) then runEach m name body ws fuel

/-- Runs the first branch that characters match. -/
def runBranch (m : Mode) (cs : Chars) :
    List (List Word × List Command) → Nat → Run Unit
  | _, 0 => throw (.exits 2)
  | [], _ + 1 => setStatus 0
  | (patterns, body) :: rest, fuel + 1 => do
    if ← matchesAny cs patterns fuel then
      if body.isEmpty then setStatus 0 else runList m fuel body
    else runBranch m cs rest fuel

/-- Whether characters match one of some patterns. -/
def matchesAny (cs : Chars) : List Word → Nat → Run Bool
  | _, 0 => throw (.exits 2)
  | [], _ + 1 => return false
  | p :: ps, fuel + 1 => do
    let home ← homeFinder
    let pieces ← expandParts (printed fuel) (p.withHomes home false)
    if matchesPattern (Piece.pattern pieces) cs then return true
    else matchesAny cs ps fuel

/-- Runs commands that are given as characters. -/
def runAction : Nat → Chars → Run Unit
  | 0, _ => throw (.exits 2)
  | fuel + 1, cs => runText {} { rest := cs } fuel

/-- Runs what is to be run on the signals that wait. -/
def runTraps : Nat → Run Unit
  | 0 => throw (.exits 2)
  | fuel + 1 => do
    let t := (← world).self
    match t.pending.find? t.caught.contains with
    | none => return ()
    | some n =>
      modifyTask fun t => { t with pending := t.pending.filter (· != n) }
      let status := (← shell).status
      runAction fuel (((← shell).traps.lookup n).getD [])
      setStatus status
      runTraps fuel

/-- Runs the commands of a text line by line. -/
def runText (m : Mode) (s : Source) : Nat → Run Unit
  | 0 => throw (.exits 2)
  | fuel + 1 => do
    match readLine { s with aliases := (← shell).aliases } with
    | .error e =>
      change fun s => { s with line := e.line }
      fatal ("Syntax error: " ++ e.text)
    | .ok none => return ()
    | .ok (some (commands, rest)) =>
      change fun s => { s with position := rest.line }
      runList m fuel commands
      runText m rest fuel

/-- Shows a command, with assignments, before it runs. -/
def trace (descriptors : List (Nat × Nat)) (given : List (Chars × Chars)) (words : List Chars) :
    Nat → Run Unit
  | 0 => throw (.exits 2)
  | fuel + 1 => do
    if ← hasOption 'x' then
      let s ← shell
      let front ← match (s.values.lookup "PS4".toList).bind readText with
        | some w => do
          change fun s => { s with options := s.options.filter (· != 'x') }
          let cs ← expandText (printed fuel) w
          change fun t => { t with options := s.options }
          pure cs
        | none => pure []
      showCommand descriptors front (given.map (fun (x, v) => x ++ '=' :: v) ++ words)

/-- Runs a simple command: its words become the name of a command and what it is given. -/
def runSimple (m : Mode) : Nat → List Word → List (Chars × Word) → List Redirection → Run Unit
  | 0, _, _, _ => throw (.exits 2)
  | fuel + 1, words, assigned, redirections => do
    let words ← expandCommand fuel words
    let descriptors := (← world).self.descriptors
    match words with
    | [] =>
      settled do
        keepingDescriptors do
          redirectAll true fuel redirections
          let given ← assignAll fuel assigned
          unless given.isEmpty do trace descriptors given [] fuel
        return (← shell).printedStatus
    | name :: rest =>
      let s := String.ofList name
      if s = "exec" then
        binding (redirectAll true fuel redirections)
        let given ← assignAll fuel assigned
        trace descriptors given words fuel
        match rest with
        | [] => setStatus 0
        | program :: rest => speaking s (replaceBy program rest fuel)
      else if isSpecialCommand name then
        binding do
          keepingDescriptors do
            redirectAll true fuel redirections
            let given ← assignAll fuel assigned
            trace descriptors given words fuel
            setStatus (← runNamed m s rest fuel)
      else
        settled (keepingDescriptors do
          redirectAll true fuel redirections
          let given ← expandAssigned fuel assigned
          trace descriptors given words fuel
          withVariables given do
            match (← shell).functions.lookup name with
            | some body =>
              inFunction rest (runCommand { isTested := m.isTested } fuel body)
              return (← shell).status
            | none => runNamed m s rest fuel)

/-- Runs a command of the shell or a program. -/
def runNamed (m : Mode) (name : String) (words : List Chars) : Nat → Run Nat
  | 0 => throw (.exits 2)
  | fuel + 1 => do
    match name with
    | "eval" =>
      if (Chars.spaced words).all isBlank then setStatus 0
      speaking name (runText { isTested := m.isTested } { rest := Chars.spaced words } fuel)
      return (← shell).status
    | "." => speaking name (runFile words fuel)
    | "command" => runPlainly m words fuel
    | "type" => speaking name (typeOf words)
    | "hash" => speaking name (hashPlaces words)
    | _ =>
      match builtin? name with
      | some run => speaking name (run words)
      | none => runProgram m name.toList words fuel

/-- Runs the commands of a file in this shell. -/
def runFile (words : List Chars) : Nat → Run Nat
  | 0 => throw (.exits 2)
  | fuel + 1 => do
    match words with
    | [] => return 0
    | path :: _ =>
      let place ← if path.contains '/' then pure (some path) else findFile path
      match place with
      | none => fault (String.ofList path ++ ": not found")
      | some place =>
        match ← readPath place with
        | .ok cs =>
          let line := (← shell).line
          let returning : Run Unit :=
            try
              speaking (String.ofList path) (runText {} { rest := cs } fuel)
            catch
              | .returns status => setStatus status
              | j => throw j
          setStatus 0
          returning
          change fun s => { s with line }
          return (← shell).status
        | .error .isDirectory => return 0
        | .error e => fault ("cannot open " ++ String.ofList path ++ ": " ++ refusalText false e)

/-- Runs a command past the functions, or says what its name stands for. -/
def runPlainly (m : Mode) (words : List Chars) : Nat → Run Nat
  | 0 => throw (.exits 2)
  | fuel + 1 => do
    match words with
    | [] => return 0
    | ['-', '-'] :: words => runPlainly m words fuel
    | ['-', 'p'] :: words => runPlainly m words fuel
    | ['-', 'v'] :: words => describeFirst false words
    | ['-', 'V'] :: words => describeFirst true words
    | ('-' :: c :: _) :: _ =>
      speaking "command" (fault ("Illegal option -" ++ String.singleton c))
    | w :: words => runNamed m (String.ofList w) words fuel

/-- Starts a program in a task of its own and waits for it, or in place of the shell. -/
def runProgram (m : Mode) (name : Chars) (words : List Chars) : Nat → Run Nat
  | 0 => throw (.exits 2)
  | fuel + 1 => do
    match ← locateProgram name with
    | .error e =>
      warnWith (name ++ ": ".toList ++ (startRefusal e).1.toList)
      return 127
    | .ok path =>
      if m.isLast && (← shell).traps.isEmpty then
        replaceAs name path words fuel
        return 0
      else
        let s ← shell
        let n ← Act.fork do
          match ← ((replaceAs name path words fuel : Run Unit).run.run s) with
          | (.error (.exits status), _) => return status
          | (_, s) => return s.status
        addStarted
        statusAfter [n]

/-- Makes room for a job in the list of those that have been waited for. -/
def addStarted : Run Unit :=
  change fun s => { s with jobs := s.jobs.filter fun j =>
    !(j.isOld && j.tasks.all fun n => (s.endings.lookup n).isSome) }

/-- Starts a program in place of the shell, by its name. -/
def replaceBy (name : Chars) (words : List Chars) : Nat → Run Unit
  | 0 => throw (.exits 2)
  | fuel + 1 => do
    let found ← if name.contains '/' then pure (.ok name) else findProgram name
    match found with
    | .error e =>
      let (text, status) := startRefusal e
      warnWith (name ++ ": ".toList ++ text.toList)
      throw (.exits status)
    | .ok path => replaceAs name path words fuel

/-- Starts a program in place of the shell, by its path. -/
def replaceAs (name path : Chars) (words : List Chars) : Nat → Run Unit
  | 0 => throw (.exits 2)
  | fuel + 1 => do
    let environment ← seenByPrograms
    match programNode (← world) { name := path } with
    | .error e =>
      let (text, status) := startRefusal e
      warnWith (name ++ (": " ++ text).toList)
      throw (.exits status)
    | .ok (node, _) =>
      modifyTask fun t => { t with caught := [], held := [] }
      let status ← start node path { name, words, environment } fuel
      Act.leave (.exited (status % 256))

/-- Does what the program of a node does. -/
def start (node : Nat) (path : Chars) (c : Tools.Invocation) : Nat → Act Nat
  | 0 => return 126
  | fuel + 1 => do
    Act.spend Act.startTime
    let w ← Act.world
    match w.files.content node with
    | .program name =>
      if name = shellName then runShell c fuel
      else match program? name with
        | some run => run c
        | none =>
          match starter? name (fun c => startNamed c fuel) with
          | some run => run c
          | none => return 0
    | content =>
      match interpreter? content.text with
      | some (program, given) =>
        let d := { c with name := program, words := given ++ path :: c.words }
        match ← startNamed d fuel with
        | .ok status => return status
        | .error e => return (startRefusal e).2
      | none => runShell { c with name := "/bin/sh".toList, words := path :: c.words } fuel

/-- Does what the program of a name does, if it can be started. -/
def startNamed (c : Tools.Invocation) : Nat → Act (Except Refusal Nat)
  | 0 => return .error .missing
  | fuel + 1 => do
    match programNode (← Act.world) c with
    | .error e => return .error e
    | .ok (node, path) => return .ok (← start node path c fuel)

/-- Runs a shell, as a program. -/
def runShell (c : Tools.Invocation) : Nat → Act Nat
  | 0 => return 2
  | fuel + 1 => do
    let w ← Act.world
    let values := startValues w c.environment
    let s : Environment :=
      { name := c.name, values, identity := w.current
        exported := (c.environment.map Prod.fst).filter isName ++ ["PWD".toList] }
    let body := toEnd (runAction fuel) (startShell c.name c.words (runAction fuel))
    let (_, s) ← body.run.run s
    return s.status % 256

end

end SchemaCheck.Testing.Shell
