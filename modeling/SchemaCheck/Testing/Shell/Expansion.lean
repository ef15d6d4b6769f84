import SchemaCheck.Testing.Shell.Arithmetic
import SchemaCheck.Testing.Shell.Glob
import SchemaCheck.Testing.Shell.State

/-!
# Expansion

What becomes of words when a command runs: parameters, commands and arithmetic are replaced by their
values, values without quotes around them are split into words, and words that are patterns are
replaced by the paths that match. A word can thus become several, or none.
-/

namespace SchemaCheck.Testing.Shell

/-- A piece of an expanded word. -/
inductive Piece where
  /-- A character; one that comes from a value without quotes may be split at. -/
  | glyph (g : Glyph) (mayBeSplit : Bool)
  /-- The place of something quoted, which makes a word even if it is empty. -/
  | quote
  /-- The end of a word within. -/
  | border
  deriving DecidableEq

namespace Run

/-- The value of a parameter. Several values, of the arguments, are kept apart. -/
def parameter? (name : Chars) : Run (Option (List Chars)) := do
  let s ← shell
  match name with
  | ['@'] | ['*'] => return some s.arguments
  | ['#'] => return some [(toString s.arguments.length).toList]
  | ['?'] => return some [(toString s.status).toList]
  | ['$'] => return some [decimal s.identity]
  | ['-'] => return some [s.options]
  | ['!'] => return s.lastTask.map fun n => [decimal n]
  | c :: cs =>
    if c.isDigit then
      match (digits 10 0 (c :: cs)).1 with
      | 0 => return some [s.name]
      | n + 1 => return s.arguments[n]?.map fun a => [a]
    else return (s.values.lookup name).map fun v => [v]
  | [] => return none

end Run

open Run

/-- The separator that joins arguments. -/
def separator : Run Chars := do
  match ← valueOf? "IFS".toList with
  | some ifs => return ifs.take 1
  | none => return [' ']

/-- Characters as pieces. -/
def piecesOf (isQuoted mayBeSplit : Bool) (cs : Chars) : List Piece :=
  cs.map fun c => .glyph ⟨c, isQuoted⟩ mayBeSplit

/-- The characters of pieces. -/
def Piece.chars (ps : List Piece) : Chars :=
  ps.filterMap fun
    | .glyph g _ => some g.char
    | .quote => none
    | .border => some ' '

/-- The pattern that pieces are. -/
def Piece.pattern (ps : List Piece) : List Glyph :=
  ps.filterMap fun
    | .glyph g _ => some g
    | .quote => none
    | .border => some ⟨' ', false⟩

/-- The pieces of values. Between quotes each argument is a word of its own for `@`, and all are one
word for `*`. -/
def piecesOfValues (name : Chars) (inQuotes : Bool) (values : List Chars) : Run (List Piece) := do
  if name = ['@'] then
    let each := values.map fun v =>
      (if inQuotes then [Piece.quote] else []) ++ piecesOf inQuotes (!inQuotes) v
    return [Piece.border].intercalate each
  else if name = ['*'] && !inQuotes then
    return [Piece.border].intercalate (values.map (piecesOf false true))
  else
    let text := (← separator).intercalate values
    return (if inQuotes then [Piece.quote] else []) ++ piecesOf inQuotes (!inQuotes) text

/-- The number of a parameter in arithmetic. -/
def numberOf (failing : Bool) (values : List (Chars × Chars)) (assigned : List (Chars × Int))
    (name : Chars) : Except String Int :=
  match assigned.lookup name with
  | some n => .ok n
  | none =>
    match values.lookup name with
    | some v =>
      let (n, rest) := integer v
      if rest.all isWhite then .ok (clamp n) else .error ("Illegal number: " ++ String.ofList v)
    | none =>
      if failing then .error (String.ofList name ++ ": parameter not set") else .ok 0

/-- The value of arithmetic. -/
def calculate (cs : Chars) : Run Chars := do
  let wrong (e : String) : String :=
    "arithmetic expression: " ++ e ++ ": \"" ++ String.ofList cs ++ "\""
  match Arithmetic.parse cs with
  | .error e => fatal (wrong e)
  | .ok t =>
    let s ← shell
    match (t.evaluate wrong (numberOf (s.options.contains 'u') s.values)).run [] with
    | .error e => fatal e
    | .ok (n, assigned) =>
      assigned.reverse.forM fun (x, k) => assign x (some (toString k).toList)
      return (toString n).toList

mutual

/-- The pieces of a word. `printed` runs commands and gives what they print. -/
def expandParts (printed : List Command → Run Chars) : List Part → Run (List Piece)
  | [] => return []
  | p :: ps => do
    let here ← expandPart printed p
    return here ++ (← expandParts printed ps)

/-- The pieces of a part of a word. -/
def expandPart (printed : List Command → Run Chars) : Part → Run (List Piece)
  | .plain cs => return piecesOf false false cs
  | .quoted cs => return .quote :: piecesOf true false cs
  | .expansion inQuotes e => expandValue printed inQuotes e

/-- The pieces of what a part is replaced by. -/
def expandValue (printed : List Command → Run Chars) (inQuotes : Bool) :
    Expansion → Run (List Piece)
  | .malformed => fatal "Bad substitution"
  | .printed script => do
    let cs ← printed script
    return (if inQuotes then [.quote] else []) ++ piecesOf inQuotes (!inQuotes) cs
  | .arithmetic w => do
    let cs ← calculate (Piece.chars (← expandParts printed w))
    return (if inQuotes then [.quote] else []) ++ piecesOf inQuotes (!inQuotes) cs
  | .length name => do
    let values ← parameter? name
    if values.isNone && (← hasOption 'u') then fatal (String.ofList name ++ ": parameter not set")
    let text := (← separator).intercalate (values.getD [])
    return piecesOf inQuotes (!inQuotes) (toString text.length).toList
  | .parameter name orNull adjustment w => do
    let values ← parameter? name
    let isMissing := match values with
      | none => true
      | some vs => (vs.isEmpty || (orNull && vs.all List.isEmpty))
    let value : Run (List Piece) := piecesOfValues name inQuotes (values.getD [])
    match adjustment with
    | .keep =>
      if values.isNone && (← hasOption 'u') then
        fatal (String.ofList name ++ ": parameter not set")
      value
    | .orElse => if isMissing then soften inQuotes <$> expandParts printed w else value
    | .instead =>
      if isMissing then return (if inQuotes then [.quote] else [])
      else soften inQuotes <$> expandParts printed w
    | .orAssign =>
      if isMissing then
        let cs := Piece.chars (← expandParts printed w)
        if !isName name then fatal (String.ofList name ++ ": bad variable name")
        assign name (some cs)
        return (if inQuotes then [.quote] else []) ++ piecesOf inQuotes (!inQuotes) cs
      else value
    | .orFail =>
      if isMissing then
        let cs := Piece.chars (← expandParts printed w)
        fatal (String.ofList name ++ ": " ++
          if cs.isEmpty then "parameter not set" ++ (if orNull then " or null" else "")
          else String.ofList cs)
      else value
    | .cut atEnd longest =>
      if values.isNone && (← hasOption 'u') then
        fatal (String.ofList name ++ ": parameter not set")
      let pattern := Piece.pattern (← expandParts printed w)
      piecesOfValues name inQuotes ((values.getD []).map (cutMatch atEnd longest pattern))
where
  /-- The pieces of a word that stands in for a value: without quotes they may be split at. -/
  soften (inQuotes : Bool) (ps : List Piece) : List Piece :=
    if inQuotes then .quote :: ps
    else ps.map fun
      | .glyph g _ => .glyph g (!g.isQuoted)
      | p => p

end

/-- The words of pieces, split at the separators. `current` is the word that has begun, its last
character first, and `afterBlank` says that a blank has just ended one: a separator that is no blank
then ends no other. -/
def splitPieces (separators : Chars) (current : Option (List Glyph)) (afterBlank : Bool) :
    List Piece → List (List Glyph)
  | [] => current.toList.map List.reverse
  | .quote :: ps => splitPieces separators (some (current.getD [])) false ps
  | .border :: ps =>
    current.toList.map List.reverse ++ splitPieces separators none false ps
  | .glyph g mayBeSplit :: ps =>
    if mayBeSplit && separators.contains g.char then
      if g.char == ' ' || g.char == '\t' || g.char == '\n' then
        match current with
        | some cs => cs.reverse :: splitPieces separators none true ps
        | none => splitPieces separators none afterBlank ps
      else
        match current with
        | some cs => cs.reverse :: splitPieces separators none false ps
        | none =>
          if afterBlank then splitPieces separators none false ps
          else [] :: splitPieces separators none false ps
    else splitPieces separators (some (g :: current.getD [])) false ps

/-- The home that a tilde with the name of a user stands for. -/
def homeFinder : Run (Chars → Option Chars) := do
  let s ← shell
  let w ← world
  return fun user =>
    if user.isEmpty then s.values.lookup "HOME".toList else homeOf? w user

/-- The words that a word becomes. -/
def expandFully (printed : List Command → Run Chars) (w : Word) : Run (List Chars) := do
  let home ← homeFinder
  let ps ← expandParts printed (w.withHomes home false)
  let separators := (← valueOf? "IFS".toList).getD [' ', '\t', '\n']
  let words := splitPieces separators none false ps
  if ← hasOption 'f' then return words.map (List.map Glyph.char)
  let here ← world
  return words.flatMap fun gs =>
    match pathsOf here gs with
    | [] => [gs.map Glyph.char]
    | paths => paths

/-- The one word that a word becomes where none is split. -/
def expandWord (printed : List Command → Run Chars) (w : Word) : Run Chars := do
  let home ← homeFinder
  return Piece.chars (← expandParts printed (w.withHomes home false))

/-- What the value of a variable becomes. -/
def expandValueWord (printed : List Command → Run Chars) (w : Word) : Run Chars := do
  let home ← homeFinder
  return Piece.chars (← expandParts printed (w.withHomes home true))

/-- What the text of a document becomes. -/
def expandText (printed : List Command → Run Chars) (w : Word) : Run Chars := do
  return Piece.chars (← expandParts printed w)

end SchemaCheck.Testing.Shell
