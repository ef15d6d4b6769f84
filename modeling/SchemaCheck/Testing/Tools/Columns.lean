import SchemaCheck.Testing.Tools.Lines

/-!
# Columns

Tools that work within the lines of a text: they cut pieces out of lines, join lines, break them, or
put numbers in front of them.
-/

namespace SchemaCheck.Testing.Tools

open Host

/-- Positions from one to another, counted from one; there may be no last one. -/
structure Range where
  first : Nat
  last : Option Nat

/-- The range that a part of a list states. -/
def readRange (ofFields : Bool) (cs : Chars) : Except Chars Range :=
  let bad (text : String) : Except Chars Range := .error text.toList
  match cs.span (· != '-') with
  | (first, rest) =>
    match (if first.isEmpty then some 1 else natural? first), rest with
    | some 0, _ => bad (if ofFields then "fields are numbered from 1"
        else "byte/character positions are numbered from 1")
    | some n, [] => if first.isEmpty then bad "invalid range" else .ok ⟨n, some n⟩
    | some n, [_] =>
      if first.isEmpty then bad "invalid range with no endpoint: -" else .ok ⟨n, none⟩
    | some n, _ :: last =>
      match natural? last with
      | some m => if m < n then bad "invalid decreasing range" else .ok ⟨n, some m⟩
      | none => bad "invalid range"
    | none, _ => bad ("invalid " ++ (if ofFields then "field value '" else
        "byte/character position '") ++ String.ofList cs ++ "'")

/-- Whether a position is in a range. -/
def Range.contains (r : Range) (n : Nat) : Bool := r.first ≤ n && r.last.all (n ≤ ·)

/-- The elements at the positions of some ranges. -/
def chosen {α : Type} (rs : List Range) (xs : List α) : List α :=
  (xs.zipIdx 1).filterMap fun (x, n) => if rs.any (·.contains n) then some x else none

/-- Cuts characters or fields out of lines. -/
def cut : Program := Options.run { plain := "ns", valued := "bcdf" } fun c p => do
  let delimiter := p.valueOr 'd' ['\t']
  match p.options.filter fun o => ['b', 'c', 'f'].contains o.1 with
  | [] => c.refuse "you must specify a list of bytes, characters, or fields".toList
  | _ :: _ :: _ => c.refuse "only one list may be specified".toList
  | [(kind, list)] =>
    let ofFields := kind == 'f'
    if delimiter.length > 1 then c.refuse "the delimiter must be a single character".toList
    else match (Chars.splitAt ',' list).mapM (readRange ofFields) with
    | .error e => c.refuse e
    | .ok ranges =>
      let d := delimiter.headD (Char.ofNat 0)
      let (_, status) ← eachLine c p.operands (fun (_ : Unit) line =>
        ((), if !ofFields then chosen ranges line ++ ['\n']
          else if line.contains d then
            [d].intercalate (chosen ranges (Chars.splitAt d line)) ++ ['\n']
          else if p.has 's' then [] else line ++ ['\n'])) ()
      return status

/-- Words with the characters of a cycle between them. -/
def joinWith (cycle : Chars) (words : List Chars) : Chars :=
  words.headD [] ++ (words.drop 1).zipIdx.flatMap fun (w, i) =>
    (if cycle.isEmpty then [] else [cycle.getD (i % cycle.length) '\t']) ++ w

/-- The characters of a list of delimiters, in which a backslash quotes. -/
def delimiters : Chars → Chars
  | '\\' :: 'n' :: cs => '\n' :: delimiters cs
  | '\\' :: 't' :: cs => '\t' :: delimiters cs
  | '\\' :: c :: cs => c :: delimiters cs
  | c :: cs => c :: delimiters cs
  | [] => []

/-- Joins lines: those of one input after another, or those at the same place of all inputs. Inputs
that are the same are read in turns. -/
def paste : Program := Options.run { plain := "s", valued := "d" } fun c p => do
  let cycle := delimiters (p.valueOr 'd' ['\t'])
  let paths := orInput p.operands
  let mut columns := []
  let mut status := 0
  let shared := paths.count ['-']
  let mut turn := 0
  let mut input := []
  for path in paths do
    match ← (if path = ['-'] && turn > 0 then pure (.ok []) else readPath path) with
    | .error e =>
      c.sayOf path e.text
      if !p.has 's' then Act.leave (.exited 1)
      status := 1
    | .ok cs =>
      if path = ['-'] then
        if turn = 0 then input := bodies cs
        let t := turn
        let lines := if p.has 's' then (if t = 0 then input else [])
          else input.zipIdx.filterMap fun (line, i) => if i % shared = t then some line else none
        columns := columns ++ [lines]
        turn := turn + 1
      else columns := columns ++ [bodies cs]
  let rows := if p.has 's' then columns
    else (List.range ((columns.map List.length).foldl max 0)).map fun i =>
      columns.map fun lines => lines.getD i []
  c.put (unlines (rows.map (joinWith cycle)))
  return status

/-- A first word that is a number alone, as the value of an option. -/
def spellNumber (letter : Char) (words : List Chars) : List Chars :=
  words.flatMap fun w =>
    match w with
    | '-' :: d :: _ => if d.isDigit then [['-', letter], w.tail] else [w]
    | _ => [w]

/-- A line broken into pieces of a width, the first of which so far is `piece` backwards. -/
def foldLine (atBlanks : Bool) (width : Nat) : Nat → Chars → Chars → Chars
  | 0, piece, _ => piece.reverse
  | _ + 1, piece, [] => piece.reverse
  | fuel + 1, piece, c :: cs =>
    if piece.length < width then foldLine atBlanks width fuel (c :: piece) cs
    else
      let back := piece.takeWhile (!isBlank ·)
      let front := piece.drop back.length
      if atBlanks && !front.isEmpty then
        front.reverse ++ '\n' :: foldLine atBlanks width fuel back (c :: cs)
      else piece.reverse ++ '\n' :: foldLine atBlanks width fuel [] (c :: cs)

/-- Breaks lines that are too long. -/
def fold : Program := fun c =>
  Options.run { plain := "bs", valued := "w" } (fun c p => do
    let width := p.valueOr 'w' "80".toList
    match natural? width with
    | none | some 0 => c.fail ("invalid number of columns: ".toList ++ quoted width)
    | some width =>
      showTexts c p.operands fun _ cs => (Chars.lines cs).flatMap fun line =>
        let body := Chars.body line
        foldLine (p.has 's') width (3 * body.length + 3) [] body ++ line.drop body.length)
    1 { c with words := spellNumber 'w' c.words }

/-- A line with blanks for tabs. The stops are multiples of a number, or the places of a list. -/
def expandLine (stops : List Nat) : Nat → Chars → Chars
  | _, [] => []
  | column, '\t' :: cs =>
    let next := match stops with
      | [size] => column + size - column % size
      | stops => (stops.find? (column < ·)).getD (column + 1)
    List.replicate (next - column) ' ' ++ expandLine stops next cs
  | column, c :: cs => c :: expandLine stops (if c == '\n' then 0 else column + 1) cs

/-- Replaces tabs by blanks. -/
def expand : Program := fun c =>
  Options.run { valued := "t" } (fun c p => do
    let list := p.valueOr 't' ['8']
    match (Chars.splitAt ',' list).mapM natural? with
    | none =>
      c.fail ("tab size contains invalid character(s): ".toList ++
        quoted (list.dropWhile Char.isDigit))
    | some stops =>
      if stops.contains 0 then c.fail "tab size cannot be 0".toList
      else showTexts c p.operands fun _ cs => expandLine stops 0 cs)
    1 { c with words := spellNumber 't' c.words }

/-- A number as `nl` writes it: to the left, to the right, or behind zeros. -/
def lineNumber (form : Chars) (width n : Nat) : Chars :=
  if form = "ln".toList then leftIn width (decimal n)
  else if form = "rz".toList then zeroed width n
  else rightIn width (decimal n)

/-- Puts numbers in front of lines. -/
def nl : Program := Options.run { valued := "bnivws" } fun c p => do
  let number (letter : Char) (default_ : Nat) : Nat :=
    ((p.value? letter).bind natural?).getD default_
  let style := p.valueOr 'b' ['t']
  let width := number 'w' 6
  let separator := p.valueOr 's' ['\t']
  if !([['a'], ['t'], ['n']].contains style) then
    c.refuse ("invalid body numbering style: ".toList ++ quoted style)
  else
    let (_, status) ← eachLine c p.operands (fun n line =>
      if style = ['a'] || (style = ['t'] && !line.isEmpty) then
        (n + number 'i' 1,
          lineNumber (p.valueOr 'n' "rn".toList) width n ++ separator ++ line ++ ['\n'])
      else (n, List.replicate (width + separator.length) ' ' ++ line ++ ['\n'])) (number 'v' 1)
    return status

end SchemaCheck.Testing.Tools
