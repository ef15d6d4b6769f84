import SchemaCheck.Testing.Number.Floating
import SchemaCheck.Testing.Tools.Lines

/-!
# Counting

Tools that count: what a text has, or from one number to another.
-/

namespace SchemaCheck.Testing.Tools

open Host

/-- What is counted in a text. -/
structure Counts where
  lines : Nat := 0
  words : Nat := 0
  bytes : Nat := 0
  /-- The width of the longest line. -/
  longest : Nat := 0
  column : Nat := 0
  inWord : Bool := false

namespace Counts

/-- The counts with one more character. -/
def step (n : Counts) (c : Char) : Counts :=
  let n := { n with bytes := n.bytes + 1 }
  let isPrinted := ofKind "print" c && c != ' '
  let column := if c == '\n' || c == '\r' then 0
    else if c == '\t' then n.column + 8 - n.column % 8
    else if ofKind "print" c then n.column + 1 else n.column
  { n with
    lines := if c == '\n' then n.lines + 1 else n.lines
    words := if isPrinted && !n.inWord then n.words + 1 else n.words
    inWord := isPrinted || (n.inWord && !isWhite c)
    longest := max n.longest column, column }

/-- The counts of two texts together. -/
def add (m n : Counts) : Counts :=
  { lines := m.lines + n.lines, words := m.words + n.words, bytes := m.bytes + n.bytes
    longest := max m.longest n.longest }

/-- The counts that letters ask for, in the order in which they are shown. -/
def shown (n : Counts) (wants : Char → Bool) : List Nat :=
  [('l', n.lines), ('w', n.words), ('m', n.bytes), ('c', n.bytes), ('L', n.longest)].filterMap
    fun (letter, k) => if wants letter then some k else none

end Counts

/-- Counts the lines, the words and the characters of its inputs. -/
def wc : Program := Options.run { plain := "cmlwL" } fun c p => do
  let wants (d : Char) : Bool :=
    if p.options.isEmpty then ['l', 'w', 'c'].contains d else p.has d
  let paths := orInput p.operands
  let w ← Act.world
  -- The width of the numbers follows from the sizes of the files, where they are known.
  let sizes := paths.map fun path =>
    let content := if path = ['-'] then (w.descriptor? 0).map w.contentOf
      else (w.files.find w.self.directory path).toOption.map w.files.content
    match content with
    | some (.file _ size) => some size
    | none => some 0
    | _ => none
  let width := if paths.length = 1 && (Counts.shown {} wants).length = 1 then 1
    else max (if sizes.contains none then 7 else 1)
      (decimal ((sizes.filterMap id).foldl (· + ·) 0)).length
  let line (n : Counts) (name : Chars) : Chars :=
    Chars.spaced ((n.shown wants).map fun k => rightIn width (decimal k)) ++
      (if name.isEmpty then [] else ' ' :: name) ++ ['\n']
  let mut sum : Counts := {}
  let mut status := 0
  for path in paths do
    match ← withInput path fun d => stream c d (fun (n : Counts) cs =>
      (cs.foldl Counts.step n, [], true)) Act.pieceLimit {} with
    | .ok n =>
      sum := sum.add n
      c.put (line n (if p.operands.isEmpty then [] else path))
    | .error e =>
      c.sayOf path e.text
      if e = .isDirectory then c.put (line {} path)
      status := 1
  if paths.length > 1 then c.put (line sum "total".toList)
  return status

/-- A decimal number: a whole number divided by a power of ten. -/
structure Decimal where
  mantissa : Int
  places : Nat

namespace Decimal

/-- The number that a word is. -/
def read? (cs : Chars) : Option Decimal :=
  let (isNegative, body) : Bool × Chars := match cs with
    | '-' :: cs => (true, cs)
    | '+' :: cs => (false, cs)
    | cs => (false, cs)
  match Floating.pointed 10 body with
  | (n, places, count, []) =>
    if count = 0 then none else some ⟨if isNegative then -(n : Int) else n, places⟩
  | _ => none

/-- The mantissa of a number with so many places. -/
def scaled (d : Decimal) (places : Nat) : Int := d.mantissa * (Nat.pow 10 (places - d.places) : Nat)

/-- The text of a whole number divided by a power of ten, with so many digits at least. -/
def text (n : Int) (places width : Nat) : Chars :=
  let front : Chars := if n < 0 then ['-'] else []
  let point := if places > 0 then 1 else 0
  let ds := zeroed (max (places + 1) (width - front.length - point)) n.natAbs
  front ++ ds.take (ds.length - places) ++
    (if places > 0 then '.' :: ds.drop (ds.length - places) else [])

end Decimal

/-- Writes the numbers from one to another, piece by piece, in at most `fuel` pieces. -/
def writeNumbers (c : Invocation) (text : Int → Chars) (separator : Chars) (first step : Int) :
    Nat → Nat → Act Unit
  | 0, _ | _, 0 => return ()
  | fuel + 1, left => do
    let count := min left 1000
    let numbers := (List.range count).map fun (i : Nat) => text (first + (i : Int) * step)
    c.put (separator.intercalate numbers ++ (if count < left then separator else ['\n']))
    writeNumbers c text separator (first + (count : Int) * step) step fuel (left - count)

/-- Counts from one number to another. -/
def seq : Program := fun c =>
  let isNumber (w : Chars) : Bool := (w.drop 1).head?.any fun d => d.isDigit || d == '.'
  let options := c.words.takeWhile fun w => w.head? = some '-' && !isNumber w
  -- The value of `-s` may be any word.
  let options := if options.getLast? = some ['-', 's'] then c.words.take (options.length + 1)
    else options
  let numbers := c.words.drop options.length
  Options.run { plain := "w", valued := "s" } (fun c p => do
    match numbers.find? fun w => (Decimal.read? w).isNone with
    | some w => c.refuse ("invalid floating point argument: ".toList ++ quoted w)
    | none =>
      let bounds? : Except Chars (Decimal × Decimal × Decimal) :=
        match numbers.filterMap Decimal.read? with
        | [] => .error "missing operand".toList
        | [last] => .ok (⟨1, 0⟩, ⟨1, 0⟩, last)
        | [first, last] => .ok (first, ⟨1, 0⟩, last)
        | [first, step, last] => .ok (first, step, last)
        | _ => .error ("extra operand ".toList ++ quoted (numbers.getD 3 []))
      match bounds? with
      | .error e => c.refuse e
      | .ok (first, step, last) =>
        if step.mantissa = 0 then
          c.refuse ("invalid Zero increment value: ".toList ++ quoted (numbers.getD 1 []))
        else
          let places := max first.places (max step.places last.places)
          let shownPlaces := max first.places step.places
          let (start, step, last) := (first.scaled places, step.scaled places, last.scaled places)
          let count := (Int.fdiv (last - start) step + 1).toNat
          let shown (width : Nat) (n : Int) : Chars :=
            Decimal.text (n / (Nat.pow 10 (places - shownPlaces) : Nat)) shownPlaces width
          let width := if p.has 'w' then max (shown 0 start).length (shown 0 last).length else 0
          writeNumbers c (shown width) (p.valueOr 's' ['\n']) start step (count + 1) count
          return 0)
    1 { c with words := options }

end SchemaCheck.Testing.Tools
