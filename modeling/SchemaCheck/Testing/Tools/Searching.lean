import SchemaCheck.Testing.Expression.Matching
import SchemaCheck.Testing.Tools.Lines

/-!
# Searching

The tool that shows the lines in which expressions match. A line is found if one of the expressions
matches somewhere in it; what is shown of it depends on the options.
-/

namespace SchemaCheck.Testing.Tools

open Host

namespace Search

/-- What is searched for, and how it is shown: letters are those of the options. -/
structure Query where
  expressions : List Expression
  has : Char → Bool
  most : Option Nat
  showsName : Bool

/-- How far a search in a file is: the number of the line, and how many lines were found. -/
structure Progress where
  number : Nat := 0
  found : Nat := 0

/-- Whether letters are alike in both cases. -/
def Query.ignoresCase (q : Query) : Bool := q.has 'i' || q.has 'y'

/-- The first match of some expressions from a position on; of those that begin there the
longest. -/
def Query.firstMatch? (q : Query) (text : Array Char) (i : Nat) : Option Expression.Match :=
  (q.expressions.filterMap fun e => Expression.find? q.ignoresCase text e i).foldl
    (fun best m => match best with
      | none => some m
      | some b => if m.first < b.first || (m.first = b.first && m.last > b.last) then some m
        else some b) none

/-- The matches of a line that are not empty, in at most `fuel` steps. -/
def Query.allMatches (q : Query) (text : Array Char) : Nat → Nat → List Chars
  | 0, _ => []
  | fuel + 1, i =>
    match q.firstMatch? text i with
    | none => []
    | some m =>
      if m.last = m.first then
        if m.first ≥ text.size then [] else allMatches q text fuel (m.first + 1)
      else Expression.slice text m.first m.last :: allMatches q text fuel m.last

/-- Whether no more lines are needed. -/
def Query.isDone (q : Query) (p : Progress) : Bool :=
  q.most.any (p.found ≥ ·) || (p.found > 0 && ['q', 'l', 'L'].any q.has)

/-- One more line. -/
def Query.step (q : Query) (name : Chars) (p : Progress) (line : Chars) : Progress × Chars :=
  let number := p.number + 1
  let isFound := q.expressions.any (Expression.occursIn q.ignoresCase · line) != q.has 'v'
  let label := (if q.showsName then name ++ [':'] else []) ++
    (if q.has 'n' then decimal number ++ [':'] else [])
  let text := line.toArray
  let shown := if !isFound || ['q', 'l', 'L', 'c'].any q.has then []
    else if !q.has 'o' then [line]
    else if q.has 'v' then [] else q.allMatches text (text.size + 2) 0
  ({ number, found := if isFound then p.found + 1 else p.found },
    unlines (shown.map (label ++ ·)))

/-- Whether expressions are written in the extended form. -/
def isExtended (p : Parsed) : Bool := p.has 'E' || p.has 'P'

/-- The expression of a pattern. -/
def read (p : Parsed) (pattern : Chars) : Except String Expression := do
  let e ← if p.has 'F' then pure (Expression.literally pattern)
    else Expression.read (isExtended p) pattern
  let within (first last : Place) : Expression :=
    .sequence (.place first) (.sequence e (.place last))
  return if p.has 'x' then within .lineStart .lineEnd
    else if p.has 'w' then within .openLeft .openRight else e

end Search

/-- Searches files for patterns, and says whether something was found. -/
def searchFor (c : Invocation) (p : Parsed) (patterns paths : List Chars) : Act Nat := do
  match patterns.mapM (Search.read p) with
  | .error e => c.fail e.toList 2
  | .ok expressions =>
    let paths := orInput paths
    let q : Search.Query :=
      { expressions, has := p.has, most := (p.value? 'm').bind natural?
        showsName := !p.has 'h' && (p.has 'H' || paths.length > 1) }
    let mut foundSome := false
    let mut status := 1
    for path in paths do
      let name := if path = ['-'] then "(standard input)".toList else path
      match ← withInput path fun d => throughLines c d (q.step name) q.isDone {} with
      | .error e =>
        if !p.has 's' then c.say (path ++ ": ".toList ++ e.text.toList)
        status := 2
      | .ok r =>
        if r.found > 0 then foundSome := true
        if p.has 'q' then pure ()
        else if p.has 'l' || p.has 'L' then
          if (r.found > 0) == p.has 'l' then c.put (name ++ ['\n']) 2
        else if p.has 'c' then
          c.put ((if q.showsName then name ++ [':'] else []) ++ decimal r.found ++ ['\n']) 2
    return if foundSome && (status = 1 || p.has 'q') then 0 else status

/-- Shows the lines in which expressions match; some options may be given in any case. -/
def grepWith (extra : List Chars) : Program := fun c => do
  let options : Options := { plain := "EFGPiyvxwnHhoqsclLa", valued := "efm" }
  let usage : Act Nat := do
    let _ ← Act.write 2 ("Usage: ".toList ++ c.name ++ " [OPTION]... PATTERNS [FILE]...\n".toList)
    let _ ← Act.write 2 ("Try '".toList ++ c.name ++ " --help' for more information.\n".toList)
    return 2
  match options.read (extra ++ c.words) {} with
  | .error e =>
    c.say e
    usage
  | .ok p =>
    let mut patterns := (p.values 'e').flatMap (Chars.splitAt '\n')
    for file in p.values 'f' do
      match ← readPath file with
      | .ok cs => patterns := patterns ++ bodies cs
      | .error e =>
        c.sayOf file e.text
        Act.leave (.exited 2)
    if p.has 'e' || p.has 'f' then searchFor c p patterns p.operands
    else match p.operands with
      | [] => usage
      | pattern :: paths => searchFor c p (Chars.splitAt '\n' pattern) paths

end SchemaCheck.Testing.Tools
