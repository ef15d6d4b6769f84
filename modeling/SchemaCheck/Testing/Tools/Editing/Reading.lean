import SchemaCheck.Testing.Expression.Matching

/-!
# Scripts that edit text

What the scripts of `sed` consist of, and how they are written: commands, each with the lines for
which it is meant. What is wrong with a script is said together with the number of characters that
were read of it.
-/

namespace SchemaCheck.Testing.Tools.Editing

/-- An expression of a script. -/
structure Finder where
  expression : Expression
  ignoresCase : Bool := false

/-- What a line is chosen by. -/
inductive Address where
  | line (number : Nat)
  /-- A line, and then one in so many. -/
  | everyFrom (first step : Nat)
  | last
  | found (f : Finder)
  /-- So many lines after the first one of a range. -/
  | after (count : Nat)

/-- A piece of a replacement. -/
inductive Piece where
  | text (cs : Chars)
  | group (number : Nat)

/-- What a command does; one of the plain ones is known by its letter. -/
inductive Action where
  | opening
  | closing
  | label (name : Chars)
  | plain (letter : Char)
  /-- Adds a text behind or before the line, or puts it in its place. -/
  | text (letter : Char) (cs : Chars)
  | jump (letter : Char) (label : Chars)
  | quit (letter : Char) (status : Nat)
  | readFile (path : Chars)
  /-- Replaces matches from one on: only this one, or all of them. -/
  | substitute (f : Finder) (pieces : List Piece) (number : Nat) (isGlobal prints : Bool)
  | translate (table : List (Char × Char))

/-- A command, and the lines for which it is meant. -/
structure Command where
  first : Option Address := none
  last : Option Address := none
  isNegated : Bool := false
  action : Action

/-- What is wrong with a script, and how much of it was left. -/
abbrev Fault := String × Nat

/-- What is read of a script, and what is left of it. -/
abbrev Reader := StateT Chars (Except Fault)

namespace Reader

/-- Refuses a script. -/
def fail {α : Type} (text : String) : Reader α := do
  throw (text, (← get).length)

/-- The next character, without taking it. -/
def peek : Reader (Option Char) := return (← get).head?

/-- Takes the next character. -/
def take : Reader (Option Char) := modifyGet fun cs => (cs.head?, cs.tail)

/-- Takes characters as long as they are of a kind. -/
def takeWhile (p : Char → Bool) : Reader Chars := modifyGet (List.span p)

/-- Takes a number. -/
def number : Reader Nat := modifyGet (digits 10 0)

/-- Ends a command: blanks, and then the end of the line or of the commands in braces. -/
def endCommand : Reader Unit := do
  let _ ← takeWhile isBlank
  match ← peek with
  | none | some '#' | some '\x7d' => return ()
  | some c =>
    let _ ← take
    if c != '\n' && c != ';' then fail "extra characters after command"

end Reader

open Reader

/-- The text up to a delimiter, and what follows that; `none` if it does not come. In an expression
a set in brackets protects the delimiter, and a backslash before it goes away. -/
def upTo (d : Char) (isExpression inSet : Bool) : Chars → Option (Chars × Chars)
  | [] => none
  | ['\\'] => none
  | '\\' :: c :: cs =>
    (upTo d isExpression inSet cs).map fun (taken, rest) =>
      (if c == d && (isExpression || c != '&') then c :: taken
        else if c == 'n' && isExpression then '\n' :: taken
        else if c == 't' then '\t' :: taken else '\\' :: c :: taken, rest)
  | c :: cs =>
    if c == d && !inSet then some ([], cs)
    else
      let inSet := if isExpression then (c == '[' || inSet) && c != ']' else false
      (upTo d isExpression inSet cs).map fun (taken, rest) => (c :: taken, rest)

/-- Takes the text up to a delimiter, or refuses the script. -/
def delimited (d : Char) (isExpression : Bool) (text : String) : Reader Chars := do
  match upTo d isExpression false (← get) with
  | some (taken, rest) =>
    set rest
    return taken
  | none =>
    set ([] : Chars)
    fail text

/-- The expression that a text writes, and how many groups it has. -/
def expression (isExtended : Bool) (text : Chars) : Reader (Expression × Nat) :=
  match Expression.readGroups isExtended text with
  | .ok e => return e
  | .error e => fail e

/-- Takes an address, if there is one. -/
def address? (isExtended : Bool) : Reader (Option Address) := do
  let found (d : Char) : Reader (Option Address) := do
    let text ← delimited d true "unterminated address regex"
    let letters ← takeWhile (· == 'I')
    let (e, _) ← expression isExtended text
    return some (.found ⟨e, !letters.isEmpty⟩)
  match ← peek with
  | some '/' =>
    let _ ← take
    found '/'
  | some '\\' =>
    let _ ← take
    found ((← take).getD '/')
  | some '$' =>
    let _ ← take
    return some .last
  | some '+' =>
    let _ ← take
    return some (.after (← number))
  | some c =>
    if !c.isDigit then return none
    let n ← number
    if (← peek) != some '~' then return some (.line n)
    let _ ← take
    return some (.everyFrom n (← number))
  | none => return none

/-- The text of a command that adds text, up to the end of the line, and what follows it:
backslashes go away. -/
def textLine : Chars → Chars × Chars
  | [] => ([], [])
  | '\n' :: cs => ([], cs)
  | ['\\'] => ([], [])
  | '\\' :: c :: cs =>
    let (text, rest) := textLine cs
    ((if c == 't' then '\t' else c) :: text, rest)
  | c :: cs =>
    let (text, rest) := textLine cs
    (c :: text, rest)

/-- Takes the text of a command that adds text. -/
def addedText : Reader Chars := do
  let _ ← takeWhile isBlank
  if (← get).isEmpty then fail "expected \\ after `a', `c' or `i'"
  if (← peek) = some '\\' then
    let _ ← take
    let _ ← takeWhile isBlank
    if (← peek) = some '\n' then
      let _ ← take
  let text ← modifyGet textLine
  return text ++ ['\n']

/-- The pieces of a replacement. -/
def pieces : Chars → List Piece
  | [] => []
  | '\\' :: c :: cs =>
    (if c.isDigit then .group (c.toNat - 0x30) else .text [if c == 'n' then '\n' else c]) ::
      pieces cs
  | '&' :: cs => .group 0 :: pieces cs
  | c :: cs => .text [c] :: pieces cs

/-- Takes the letters behind a substitution, in at most `fuel` steps: which match is replaced, and
what else they say. -/
def letters : Nat → Option Nat → Chars → Reader (Option Nat × Chars)
  | 0, n, found => return (n, found)
  | fuel + 1, n, found => do
    match ← peek with
    | none | some '#' | some '\x7d' => return (n, found)
    | some c =>
      if c.isDigit then
        let k ← number
        if k = 0 then fail "number option to `s' command may not be zero"
        letters fuel (some k) found
      else
        let _ ← take
        if c == '\n' || c == ';' then return (n, found)
        else if isBlank c then letters fuel n found
        else if ['g', 'p', 'i', 'I'].contains c then letters fuel n (c :: found)
        else fail "unknown option to `s'"

/-- Takes what follows the letter of a substitution. -/
def substitution (isExtended : Bool) : Reader Action := do
  let unterminated := "unterminated `s' command"
  match ← take with
  | none => fail unterminated
  | some d =>
    let text ← delimited d true unterminated
    let ps := pieces (← delimited d false unterminated)
    let (n, found) ← letters ((← get).length + 1) none []
    let (e, groups) ← expression isExtended text
    let most := (ps.map fun p => match p with
      | .group k => k
      | .text _ => 0).foldl max 0
    if most > groups then
      fail ("invalid reference \\" ++ toString most ++ " on `s' command's RHS")
    return .substitute ⟨e, found.any fun c => c == 'i' || c == 'I'⟩ ps (n.getD 1)
      (found.contains 'g') (found.contains 'p')

/-- Takes the strings of a translation. -/
def translation : Reader Action := do
  let unterminated := "unterminated `y' command"
  match ← take with
  | none => fail unterminated
  | some d =>
    let olds ← delimited d true unterminated
    let news ← delimited d true unterminated
    if olds.length ≠ news.length then fail "strings for `y' command are different lengths"
    endCommand
    return .translate (olds.zip news)

/-- Takes the action of a letter. -/
def action (isExtended : Bool) (letter : Char) : Reader Action := do
  match letter with
  | 's' => substitution isExtended
  | 'y' => translation
  | ':' =>
    let _ ← takeWhile isBlank
    return .label (← takeWhile fun c => !isWhite c && c != ';')
  | 'r' =>
    let _ ← takeWhile isBlank
    return .readFile (← takeWhile (· != '\n'))
  | c =>
    if c == '\x7b' then return .opening
    else if ['a', 'i', 'c'].contains c then return .text c (← addedText)
    else if ['b', 't', 'T'].contains c then
      let _ ← takeWhile isBlank
      let name ← takeWhile fun c => !isWhite c && c != ';' && c != '\x7d'
      endCommand
      return .jump c name
    else if ['q', 'Q'].contains c then
      let _ ← takeWhile isBlank
      let status ← number
      endCommand
      return .quit c status
    else if c == '\x7d' then
      endCommand
      return .closing
    else if "=dDgGhHnNpPxz".toList.contains c then
      endCommand
      return .plain c
    else fail ("unknown command: `" ++ String.ofList [c] ++ "'")

/-- Takes the commands of a script, in at most `fuel` commands; so many braces are open. -/
def commands (isExtended : Bool) : Nat → Nat → Reader (List Command)
  | 0, _ => return []
  | fuel + 1, depth => do
    let _ ← takeWhile fun c => isWhite c || c == ';'
    if (← peek) = some '#' then
      let _ ← takeWhile (· != '\n')
      commands isExtended fuel depth
    else if (← get).isEmpty then
      if depth > 0 then throw ("unmatched `\x7b'", 0) else return []
    else
      let first ← address? isExtended
      let _ ← takeWhile isBlank
      let hasLast := first.isSome && (← peek) = some ','
      if hasLast then
        let _ ← take
        let _ ← takeWhile isBlank
      let last ← if hasLast then address? isExtended else pure none
      if hasLast && last.isNone then fail "unexpected `,'"
      let _ ← takeWhile isBlank
      let isNegated := (← peek) = some '!'
      if isNegated then
        let _ ← take
        let _ ← takeWhile isBlank
      match ← take with
      | none | some '\n' => fail "missing command"
      | some c =>
        let action ← action isExtended c
        let depth ← match action with
          | .opening => pure (depth + 1)
          | .closing => if depth = 0 then fail "unexpected `\x7d'" else pure (depth - 1)
          | _ => pure depth
        return { first, last, isNegated, action } :: (← commands isExtended fuel depth)

/-- The script that parts write, or what is wrong with it: in which part, and after how many
characters. -/
def read (isExtended : Bool) (parts : List Chars) :
    Except (String × Nat × Nat) (Array Command) :=
  let text := ['\n'].intercalate parts
  match (commands isExtended (text.length + 2) 0).run text with
  | .ok (s, _) => .ok s.toArray
  | .error (e, left) =>
    .error (e, if e.startsWith "unmatched `" then (1, 0) else place (text.length - left) 1 parts)
where
  /-- The part in which so many characters have been read, and how many of them are in it. -/
  place (n part : Nat) : List Chars → Nat × Nat
    | [] | [_] => (part, n)
    | cs :: rest => if n ≤ cs.length then (part, n) else place (n - cs.length - 1) (part + 1) rest

end SchemaCheck.Testing.Tools.Editing
