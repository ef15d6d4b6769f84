import SchemaCheck.Testing.Tools.Basic

/-!
# Files and directories

Tools that make files and directories, list them, copy them, give them other names and take their
names away.
-/

namespace SchemaCheck.Testing.Tools

open Host

/-- The node of a path; a link at its end is followed or not. -/
def nodeOf (path : Chars) (toEnd : Bool := true) : Act (Except Refusal Nat) := do
  let w ← Act.world
  return w.files.find w.self.directory path toEnd

/-- Adds a node under a path that names nothing yet. -/
def addNode (path : Chars) (make : Nat → Chars → World → World) : Act (Except Refusal Unit) :=
  Act.update fun w =>
    match w.files.find w.self.directory path false with
    | .ok _ => (w, .error .present)
    | .error _ =>
      match w.files.place w.self.directory path with
      | .error e => (w, .error e)
      | .ok (directory, name) => (make directory name w, .ok ())

/-- Makes a directory. -/
def makeDirectory (path : Chars) (mode : Nat) : Act (Except Refusal Unit) :=
  addNode path fun directory name w =>
    { w with files := (w.files.createDirectory w.now directory name mode).1 }

/-- Takes a name away. -/
def forgetName (path : Chars) : Act Unit :=
  Act.change fun w =>
    match w.files.place w.self.directory path with
    | .ok (directory, name) => { w with files := w.files.forget w.now directory name }
    | .error _ => w

/-- What is behind a path, without following a link at its end. -/
def contentAt (path : Chars) : Act (Except Refusal Content) := do
  let w ← Act.world
  return (w.files.find w.self.directory path false).map w.files.content

/-- The names in the directory of a path. -/
def namesIn (path : Chars) : Act (List Chars) := do
  let w ← Act.world
  return ((w.files.find w.self.directory path).toOption.map w.files.names).getD []

/-- A path with a name behind it. -/
def pathIn (directory name : Chars) : Chars :=
  if directory.getLast? = some '/' then directory ++ name else directory ++ '/' :: name

/-- A path without the slashes at its end. -/
def trimmedPath (path : Chars) : Chars := (path.reverse.dropWhile (· == '/')).reverse

/-- The last name of a path. -/
def lastName (path : Chars) : Chars :=
  let trimmed := trimmedPath path
  if trimmed.isEmpty then path.take 1 else (trimmed.reverse.takeWhile (· != '/')).reverse

/-- Does something with each operand of a program, of which there has to be one; what cannot be done
is said with some words in front of the name. -/
def withOperands (c : Invocation) (paths : List Chars) (deed : String)
    (act : Chars → Act (Except Refusal Unit)) : Act Nat := do
  if paths.isEmpty then c.refuse "missing operand".toList
  else
    let mut status := 0
    for path in paths do
      match ← act path with
      | .ok () => pure ()
      | .error e =>
        c.say ((deed ++ " ").toList ++ quotedName path ++ ": ".toList ++ e.text.toList)
        status := 1
    return status

/-- Makes directories, and with `p` those above them. -/
def mkdir : Program := Options.run { plain := "p", valued := "m" } fun c p =>
  withOperands c p.operands "cannot create directory" fun path => do
    let front : Chars := if path.head? = some '/' then ['/'] else []
    let names := (Chars.splitAt '/' path).filter (!·.isEmpty)
    if p.has 'p' then
      for n in List.range names.length do
        let above := front ++ ['/'].intercalate (names.take n)
        if n > 0 then
          let _ ← makeDirectory above 0o755
      match ← makeDirectory (trimmedPath path) 0o755, ← contentAt path with
      | .error .present, .ok (.directory _) => return .ok ()
      | result, _ => return result
    else makeDirectory (trimmedPath path) 0o755

/-- Removes directories in which nothing is. -/
def rmdir : Program := Options.run {} fun c p =>
  withOperands c p.operands "failed to remove" fun path => do
    match ← contentAt path with
    | .error e => return .error e
    | .ok (.directory _) =>
      if !(← namesIn path).isEmpty then return .error .notEmpty
      forgetName (trimmedPath path)
      return .ok ()
    | .ok _ => return .error .notDirectory

/-- Makes files that are missing. -/
def touch : Program := Options.run { plain := "acm" } fun c p =>
  withOperands c p.operands "cannot touch" fun path => do
    match ← nodeOf path with
    | .ok n =>
      Act.change fun w => { w with files := w.files.modify w.now n id }
      return .ok ()
    | .error _ =>
      if p.has 'c' then return .ok ()
      return (← openPath path { writes := true, creates := true }).map fun _ => ()

/-- Removes what is behind a path, with all that is in it, in at most `fuel` steps; says whether
that went well. -/
def remove (c : Invocation) (isForced descends : Bool) : Nat → Chars → Act Bool
  | 0, _ => return false
  | fuel + 1, path => do
    let complain (e : Refusal) : Act Bool := do
      c.say ("cannot remove ".toList ++ quotedName path ++ ": ".toList ++ e.text.toList)
      return false
    match ← contentAt path with
    | .error e =>
      if isForced && (e = .missing || e = .notDirectory) then return true else complain e
    | .ok content =>
      if content.isDirectory then
        if !descends then return ← complain .isDirectory
        for name in ← namesIn path do
          if !(← remove c isForced descends fuel (pathIn path name)) then return false
      forgetName (trimmedPath path)
      return true

/-- How deep directories lie within one another. -/
def depthLimit : Nat := 200

/-- Removes files. -/
def rm : Program := Options.run { plain := "frR" } fun c p => do
  if p.operands.isEmpty && !p.has 'f' then c.refuse "missing operand".toList
  else
    let mut status := 0
    for path in p.operands do
      if !(← remove c (p.has 'f') (p.has 'r' || p.has 'R') depthLimit path) then status := 1
    return status

/-- The path that something from a path gets when it goes to another: within that if it is a
directory. -/
def destination (target source : Chars) : Act Chars := do
  let w ← Act.world
  match w.files.find w.self.directory target with
  | .ok n =>
    return if (w.files.content n).isDirectory then pathIn target (lastName source) else target
  | .error _ => return target

/-- Does something with each operand of a program and the path to which it goes. -/
def toLast (c : Invocation) (paths : List Chars)
    (act : Chars → Chars → Act (Option Chars)) : Act Nat := do
  match paths.reverse with
  | [] => c.refuse "missing file operand".toList
  | [path] => c.refuse ("missing destination file operand after ".toList ++ quotedName path)
  | target :: sources =>
    let mut status := 0
    for source in sources.reverse do
      match ← act source (← destination target source) with
      | none => pure ()
      | some e =>
        c.say e
        status := 1
    return status

/-- Copies what is behind a path to another, with all that is in it, in at most `fuel` steps; says
what is wrong. -/
def copyTree (descends : Bool) : Nat → Chars → Chars → Act (Option Chars)
  | 0, _, _ => return none
  | fuel + 1, source, target => do
    let about (text : String) (e : Refusal) : Option Chars :=
      some (text.toList ++ quotedName source ++ ": ".toList ++ e.text.toList)
    match ← contentAt source with
    | .error e => return about "cannot stat " e
    | .ok (.directory _) =>
      if !descends then
        return some ("-r not specified; omitting directory ".toList ++ quotedName source)
      let _ ← makeDirectory target 0o755
      for name in ← namesIn source do
        if let some e ← copyTree descends fuel (pathIn source name) (pathIn target name) then
          return some e
      return none
    | .ok _ =>
      match ← readPath source with
      | .error e => return about "cannot open " e
      | .ok cs =>
        match ← writePath target cs with
        | .ok () => return none
        | .error e =>
          return some ("cannot create regular file ".toList ++ quotedName target ++ ": ".toList ++
            e.text.toList)

/-- Copies files. -/
def cp : Program := Options.run { plain := "rRpf" } fun c p =>
  toLast c p.operands (copyTree (p.has 'r' || p.has 'R') depthLimit)

/-- Gives files other names. -/
def mv : Program := Options.run { plain := "fn" } fun c p =>
  toLast c p.operands fun source target => do
    let w ← Act.world
    match w.files.find w.self.directory source false, w.files.place w.self.directory target with
    | .ok n, .ok (directory, name) =>
      forgetName (trimmedPath source)
      Act.change fun w => { w with files := w.files.name w.now directory name n }
      return none
    | .error e, _ =>
      return some ("cannot stat ".toList ++ quotedName source ++ ": ".toList ++ e.text.toList)
    | _, .error e =>
      return some ("cannot move ".toList ++ quotedName source ++ " to ".toList ++
        quotedName target ++ ": ".toList ++ e.text.toList)

/-- Lists files, one in a line. -/
def ls : Program := Options.run { plain := "1aAdr" } (fun c p => do
  let w ← Act.world
  let sorted (names : List Chars) : List Chars :=
    let names := names.mergeSort fun x y => !Chars.before y x
    if p.has 'r' then names.reverse else names
  let lines (names : List Chars) : Chars := names.flatMap fun x => x ++ ['\n']
  let mut status := 0
  let mut files := []
  let mut directories := []
  for path in (if p.operands.isEmpty then [selfName] else p.operands) do
    match w.files.find w.self.directory path with
    | .error e =>
      c.say ("cannot access ".toList ++ quotedName path ++ ": ".toList ++ e.text.toList)
      status := 2
    | .ok n =>
      if (w.files.content n).isDirectory && !p.has 'd' then directories := path :: directories
      else files := path :: files
  let isNamed := p.operands.length > 1
  c.put (lines (sorted files)) 2
  let texts ← (sorted directories).mapM fun path => do
    let names := (← namesIn path).filter fun x =>
      p.has 'a' || p.has 'A' || x.head? != some '.'
    let own := if p.has 'a' then [selfName, aboveName] else []
    return (if isNamed then path ++ ":\n".toList else []) ++ lines (sorted (own ++ names))
  c.put ((if files.isEmpty || texts.isEmpty then [] else ['\n']) ++ ['\n'].intercalate texts) 2
  return status) 2

/-- Letters and digits drawn from a number. -/
def drawnLetters : Nat → Nat → Chars
  | 0, _ => []
  | count + 1, n =>
    let next := (n * 1103515245 + 12345) % 0x80000000
    Char.ofNat (0x61 + next / 65536 % 26) :: drawnLetters count next

/-- Makes a file or a directory with a new name. -/
def mktemp : Program := Options.run { plain := "dqut", valued := "p" } fun c p => do
  let template := p.operands.headD "tmp.XXXXXXXXXX".toList
  let count := (template.reverse.takeWhile (· == 'X')).length
  if count < 3 then c.fail ("too few X's in template ".toList ++ quoted template)
  else
    let w ← Act.world
    let name := template.take (template.length - count) ++
      drawnLetters count (w.now + 7919 * w.files.nodes.size + 31 * w.current)
    let isIn := p.operands.isEmpty || p.has 'p' || p.has 't'
    let common := (c.environment.lookup "TMPDIR".toList).getD "/tmp".toList
    let path := if isIn then pathIn (p.valueOr 'p' common) name else name
    let result ← if p.has 'd' then makeDirectory path 0o700 else
      addNode path fun directory name w =>
        let (files, _) := w.files.create w.now directory name
          { content := .file [] 0, mode := 0o600 }
        { w with files }
    match result with
    | .ok () =>
      c.put (path ++ ['\n'])
      return 0
    | .error e =>
      c.fail (("failed to create " ++ (if p.has 'd' then "directory" else "file") ++
        " via template ").toList ++ quoted template ++ ": ".toList ++ e.text.toList)

/-- Reads so many characters, or as many as there are, in at most `fuel` pieces. -/
def readUpTo (descriptor : Nat) : Nat → Nat → Chars → Act (Except Refusal Chars)
  | 0, _, cs => return .ok cs
  | fuel + 1, n, cs => do
    match ← Act.read descriptor (min (n - cs.length) Act.blockSize) with
    | .error e => return .error e
    | .ok [] => return .ok cs
    | .ok more =>
      if cs.length + more.length ≥ n then return .ok (cs ++ more)
      else readUpTo descriptor fuel n (cs ++ more)

/-- Copies blocks of a size, of which some may be passed over, and says how many there were. -/
def dd : Program := fun c => do
  let value (key : String) : Option Chars :=
    (c.words.find? fun w => (key ++ "=").toList.isPrefixOf w).map (·.drop (key.length + 1))
  let number (key : String) : Option Nat := (value key).bind natural?
  let size := max 1 ((number "bs").getD ((number "ibs").getD 512))
  let skipped := size * (number "skip").getD 0
  match ← withInput ((value "if").getD ['-']) fun d =>
    (number "count").elim (Act.readAll d) fun n =>
      readUpTo d Act.pieceLimit (skipped + n * size) [] with
  | .error e =>
    c.fail ("failed to open ".toList ++ quotedName ((value "if").getD []) ++ ": ".toList ++
      e.text.toList)
  | .ok cs =>
    let cs := cs.drop skipped
    match value "of" with
    | none => c.put cs
    | some path =>
      match ← writePath path cs with
      | .ok () => pure ()
      | .error e =>
        c.say ("failed to open ".toList ++ quotedName path ++ ": ".toList ++ e.text.toList)
        Act.leave (.exited 1)
    let part := if cs.length % size = 0 then 0 else 1
    let blocks := decimal (cs.length / size) ++ '+' :: decimal part ++ " records ".toList
    if value "status" != some "none".toList then
      let _ ← Act.write 2 (blocks ++ "in\n".toList ++ blocks ++ "out\n".toList)
    return 0

end SchemaCheck.Testing.Tools
