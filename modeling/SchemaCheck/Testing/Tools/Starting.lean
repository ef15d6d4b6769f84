import SchemaCheck.Testing.Shell.Arithmetic
import SchemaCheck.Testing.Shell.Printing
import SchemaCheck.Testing.Tools.Lines
import SchemaCheck.Testing.Tools.Storing

/-!
# Words and other programs

Tools that write or compute what their words say, let time pass, or start other programs.
-/

namespace SchemaCheck.Testing.Tools

open Host

/-- Writes its words. -/
def echo : Program := fun c => do
  match c.words with
  | ['-', 'n'] :: words => c.put (Chars.spaced words)
  | words => c.put (Chars.spaced words ++ ['\n'])
  return 0

/-- The words for what is wrong with a number, as the program says them. -/
def numberComplaint (text : String) : Chars :=
  let (word, about) := text.toList.span (· != ':')
  quoted word ++ (if about = ": expected numeric value".toList then
    ": expected a numeric value".toList else if about = ": not completely converted".toList then
    ": value not completely converted".toList else about)

/-- Writes its words in a format. -/
def printf : Program := fun c => do
  match c.words with
  | [] => c.refuse "missing operand".toList
  | format :: words =>
    let p := Shell.printf format words
    for text in p.complaints do c.say (numberComplaint text)
    c.put p.text
    match p.fault with
    | some text =>
      c.fail (text.toList.takeWhile (· != ':') ++ ": invalid conversion specification".toList)
    | none => return if p.complaints.isEmpty then 0 else 1

/-- Writes the last name of a path, without an ending if one is given. -/
def basename : Program := Options.run { inFront := true } fun c p => do
  match p.operands with
  | [] => c.refuse "missing operand".toList
  | path :: rest =>
    let name := lastName path
    let ending := rest.headD []
    let isCut := !ending.isEmpty && ending.isSuffixOf name && ending != name
    c.put ((if isCut then name.take (name.length - ending.length) else name) ++ ['\n'])
    return 0

/-- Writes paths without their last names. -/
def dirname : Program := Options.run {} fun c p => do
  if p.operands.isEmpty then c.refuse "missing operand".toList
  else
    for path in p.operands do
      let trimmed := trimmedPath path
      let front := trimmed.take (trimmed.length - (lastName path).length)
      c.put ((if front.isEmpty then (if path.head? = some '/' then ['/'] else selfName)
        else if (trimmedPath front).isEmpty then ['/'] else trimmedPath front) ++ ['\n'])
    return 0

/-- Lets time pass. -/
def sleep : Program := Options.run {} fun c p => do
  let durations := p.operands.map fun w => match Floating.unsigned? w with
    | some (x, rest) =>
      ([([], 1.0), (['s'], 1.0), (['m'], 60.0), (['h'], 3600.0)].lookup rest).map (x * ·)
    | none => none
  match (p.operands.zip durations).find? (·.2.isNone) with
  | some (w, _) => c.refuse ("invalid time interval ".toList ++ quoted w)
  | none =>
    if p.operands.isEmpty then c.refuse "missing operand".toList
    else
      let seconds := (durations.filterMap id).foldl (· + ·) 0.0
      Act.spend (seconds * 1000000.0).ceil.toUInt64.toNat
      return 0

namespace Computing

/-- Whether a value counts as true. -/
def isTrue (v : Chars) : Bool := !v.isEmpty && v != ['0'] && v != ['-', '0']

/-- The whole number that a value is. -/
def number? (v : Chars) : Option Int :=
  match v with
  | '-' :: ds => (natural? ds).map fun n => -(n : Int)
  | ds => (natural? ds).map Int.ofNat

/-- The levels of operators, from those that bind most to those that bind least. -/
def levels : List (List String) :=
  [["*", "/", "%"], ["+", "-"], ["<", "<=", "=", "==", "!=", ">=", ">"], ["&"], ["|"]]

/-- The value of an operator between two values. -/
def operate (operator : String) (v w : Chars) : Except String Chars :=
  let arithmetic (f : Int → Int → Except String Int) : Except String Chars :=
    match number? v, number? w with
    | some m, some n => (f m n).map fun k => (toString k).toList
    | _, _ => .error "non-integer argument"
  let order : Ordering := match number? v, number? w with
    | some m, some n => compare m n
    | _, _ => if v = w then .eq else if Chars.before v w then .lt else .gt
  let truth (b : Bool) : Except String Chars := .ok (if b then ['1'] else ['0'])
  let divided (f : Int → Int → Int) : Except String Chars :=
    arithmetic fun m n => if n = 0 then .error "division by zero" else .ok (f m n)
  match operator with
  | "*" => arithmetic fun m n => .ok (m * n)
  | "/" => divided Int.tdiv
  | "%" => divided Int.tmod
  | "+" => arithmetic fun m n => .ok (m + n)
  | "-" => arithmetic fun m n => .ok (m - n)
  | "<" => truth (order == .lt)
  | "<=" => truth (order != .gt)
  | "!=" => truth (order != .eq)
  | ">=" => truth (order != .lt)
  | ">" => truth (order == .gt)
  | "&" => .ok (if isTrue v && isTrue w then v else ['0'])
  | "|" => .ok (if isTrue v then v else if w.isEmpty then ['0'] else w)
  | _ => truth (order == .eq)

mutual

/-- The value of words whose operators are of some levels, the one that binds least first, and the
words that follow, in at most `fuel` steps. -/
def value : Nat → List (List String) → List Chars → Except String (Chars × List Chars)
  | 0, _, _ | _, [], [] => .error "syntax error"
  | fuel + 1, [], w :: words => do
    if w = ['('] then
      match ← value fuel levels.reverse words with
      | (v, [')'] :: rest) => return (v, rest)
      | _ => throw "syntax error: expecting ')'"
    else if w = "length".toList then
      match words with
      | v :: rest => return (decimal v.length, rest)
      | [] => throw "syntax error: missing argument after 'length'"
    else return (w, words)
  | fuel + 1, _ :: tighter, words => do
    let (v, rest) ← value fuel tighter words
    more fuel (levels.getD tighter.length []) tighter v rest

/-- A value with all that operators of a level make of it. -/
def more : Nat → List String → List (List String) → Chars → List Chars →
    Except String (Chars × List Chars)
  | 0, _, _, v, rest => .ok (v, rest)
  | _ + 1, _, _, v, [] => .ok (v, [])
  | fuel + 1, operators, tighter, v, w :: rest => do
    if operators.contains (String.ofList w) then
      let (x, rest) ← value fuel tighter rest
      more fuel operators tighter (← operate (String.ofList w) v x) rest
    else return (v, w :: rest)

end

end Computing

/-- Computes what its words write. -/
def expr : Program := fun c => do
  if c.words.isEmpty then c.refuse "missing operand".toList 2
  else match Computing.value (20 * c.words.length + 20) Computing.levels.reverse c.words with
    | .error e => c.fail e.toList 2
    | .ok (v, []) =>
      c.put (v ++ ['\n'])
      return if Computing.isTrue v then 0 else 1
    | .ok (_, w :: _) => c.fail ("syntax error: unexpected argument ".toList ++ quoted w) 2

/-- Starts a program in place of the one that runs; one that cannot be started is complained of. -/
def startInstead (start : Starter) (c d : Invocation) : Act Nat := do
  match ← start d with
  | .ok status => return status
  | .error e =>
    c.fail (quotedName d.name ++ ": ".toList ++ e.text.toList)
      (if e = .missing || e = .notDirectory then 127 else 126)

/-- Variables, one in a line. -/
def variableLines (vs : List (Chars × Chars)) : Chars :=
  vs.flatMap fun (name, value) => name ++ '=' :: value ++ ['\n']

/-- Starts a program with other variables, or shows the variables. -/
def env (start : Starter) : Program :=
  Options.run { plain := "i", valued := "u", inFront := true } (fun c p => do
    let assignments := p.operands.takeWhile (·.contains '=')
    let kept := (if p.has 'i' then [] else c.environment).filter fun v =>
      !(p.values 'u').contains v.1
    let environment := assignments.foldl (fun vs w =>
      let (name, value) := w.span (· != '=')
      if vs.any fun v => v.1 = name then
        vs.map fun v => if v.1 = name then (name, value.drop 1) else v
      else vs ++ [(name, value.drop 1)]) kept
    match p.operands.drop assignments.length with
    | [] =>
      c.put (variableLines environment)
      return 0
    | name :: words => startInstead start c { name, words, environment }) 125

/-- Shows the values of variables. -/
def printenv : Program := Options.run {} fun c p => do
  if p.operands.isEmpty then
    c.put (variableLines c.environment)
    return 0
  else
    let values := p.operands.map fun name => c.environment.lookup name
    c.put (unlines (values.filterMap id))
    return if values.all Option.isSome then 0 else 1

/-- The words of a text, which blanks part and quotes hold together; `word` is the one that is being
read, backwards. -/
def wordsOfText : Option Char → Option Chars → Chars → List Chars
  | _, word, [] => (word.map List.reverse).toList
  | some q, word, c :: cs =>
    if c == q then wordsOfText none word cs else wordsOfText (some q) (some (c :: word.getD [])) cs
  | none, word, '\\' :: c :: cs => wordsOfText none (some (c :: word.getD [])) cs
  | none, word, c :: cs =>
    if isWhite c then (word.map List.reverse).toList ++ wordsOfText none none cs
    else if c == '"' || c == apostrophe then wordsOfText (some c) (some (word.getD [])) cs
    else wordsOfText none (some (c :: word.getD [])) cs

/-- Starts a program with the words that it reads, all at once or so many at a time. -/
def xargs (start : Starter) : Program :=
  Options.run { plain := "0r", valued := "nI", inFront := true } fun c p => do
    match ← Act.readAll 0 with
    | .error e => c.fail ("read error: " ++ e.text).toList
    | .ok cs =>
      let words := if p.has '0' then (Chars.splitAt (Char.ofNat 0) cs).filter (!·.isEmpty)
        else if p.has 'I' then (bodies cs).filter (!·.isEmpty)
        else wordsOfText none none cs
      let command := if p.operands.isEmpty then ["echo".toList] else p.operands
      let count := ((p.value? 'n').bind natural?).getD (words.length + 1)
      let calls : List (List Chars) := match p.value? 'I' with
        | some mark => words.map fun w => command.map fun x => replaced mark w (x.length + 1) x
        | none => (groups (max 1 count) (words.length + 1) words).map (command ++ ·)
      let calls := if calls.isEmpty && !p.has 'r' && !p.has 'I' then [command] else calls
      let mut status := 0
      for call in calls do
        let d : Invocation := { c with name := call.headD [], words := call.drop 1 }
        let task ← Act.fork (startInstead start c d)
        match ← Act.awaitEnd task with
        | .exited 0 => pure ()
        | .exited n => status := if n = 126 || n = 127 then n else 123
        | .killed _ => status := 125
      return status
where
  /-- Groups of so many words, in at most `fuel` groups. -/
  groups (count : Nat) : Nat → List Chars → List (List Chars)
    | 0, _ | _, [] => []
    | fuel + 1, ws => ws.take count :: groups count fuel (ws.drop count)
  /-- A word with another one in all places of a mark, in at most `fuel` steps. -/
  replaced (mark w : Chars) : Nat → Chars → Chars
    | 0, cs => cs
    | _ + 1, [] => []
    | fuel + 1, c :: cs =>
      if mark.isPrefixOf (c :: cs) && !mark.isEmpty then
        w ++ replaced mark w fuel ((c :: cs).drop mark.length)
      else c :: replaced mark w fuel cs

end SchemaCheck.Testing.Tools
