import SchemaCheck.Testing.Tools.Lines

/-!
# Ordering

Tools for lines in order: `sort` puts them into an order that keys define, `uniq` finds lines that
repeat the one before, `comm` goes through two ordered texts at once.
-/

namespace SchemaCheck.Testing.Tools

open Host

namespace Sorting

/-- A part of a line that is compared, and the letters that say how: the field and the character
where it begins, counted from zero, and those where it ends, if it does so before the end of the
line. -/
structure Key where
  field : Nat := 0
  char : Nat := 0
  last : Option (Nat × Nat) := none
  letters : Chars := []

/-- What follows so many fields of a line. Without a character between fields they begin with the
blanks in front of them. -/
def dropFields (tab : Option Char) : Nat → Chars → Chars
  | 0, cs => cs
  | n + 1, cs => dropFields tab n (match tab with
    | some t => (cs.dropWhile (· != t)).drop 1
    | none => (cs.dropWhile isBlank).dropWhile (!isBlank ·))

/-- The characters of a key in a line. -/
def Key.of (k : Key) (tab : Option Char) (line : Chars) : Chars :=
  let skipped (cs : Chars) : Chars := if k.letters.contains 'b' then cs.dropWhile isBlank else cs
  let start := (skipped (dropFields tab k.field line)).drop k.char
  let rest := match k.last with
    | none => []
    | some (field, 0) =>
      match tab with
      | some t => line.drop ([t].intercalate ((Chars.splitAt t line).take (field + 1))).length
      | none => dropFields none (field + 1) line
    | some (field, char) => (skipped (dropFields tab field line)).drop char
  start.take (start.length - rest.length)

/-- The order of two texts. -/
def compareChars (cs ds : Chars) : Ordering :=
  if cs = ds then .eq else if Chars.before cs ds then .lt else .gt

/-- The number at the start of a text: its digits before the point, and those behind it, with a
sign for the whole. -/
def numeral (cs : Chars) : Int × Chars × Bool :=
  let cs := cs.dropWhile isBlank
  let (isNegative, cs) := match cs with
    | '-' :: cs => (true, cs)
    | cs => (false, cs)
  let (whole, rest) := digits 10 0 cs
  let part := match rest with
    | '.' :: ds => ((ds.takeWhile Char.isDigit).reverse.dropWhile (· == '0')).reverse
    | _ => []
  (if isNegative then -(whole : Int) else whole, part, isNegative)

/-- The order of the numbers at the starts of two texts. -/
def compareNumbers (cs ds : Chars) : Ordering :=
  let (m, xs, isNegative) := numeral cs
  let (n, ys, _) := numeral ds
  (compare m n).then (if isNegative then compareChars ys xs else compareChars xs ys)

/-- The order of two keys, as letters say it. -/
def compareKeys (letters : Chars) (cs ds : Chars) : Ordering :=
  let plain (cs : Chars) : Chars :=
    let cs := if letters.contains 'd' then cs.filter fun c => c.isAlphanum || isBlank c else cs
    if letters.contains 'f' then cs.map Char.toUpper else cs
  let order := if letters.contains 'n' || letters.contains 'g' then compareNumbers cs ds
    else compareChars (plain cs) (plain ds)
  if letters.contains 'r' then order.swap else order

/-- A place of a key: a field and perhaps a character, and the letters behind them. -/
def readPlace (cs : Chars) : Option (Nat × Nat × Chars) :=
  let (field, rest) := digits 10 0 cs
  let (char, rest) := match rest with
    | '.' :: rest => digits 10 0 rest
    | rest => (0, rest)
  if field = 0 || rest.any (!"bdfgnr".toList.contains ·) then none else some (field, char, rest)

/-- The key that a word states. -/
def readKey (word : Chars) : Option Key :=
  match (Chars.splitAt ',' word).map readPlace with
  | [some (field, char, letters)] => some { field := field - 1, char := char - 1, letters }
  | [some (field, char, letters), some (last, lastChar, more)] =>
    some { field := field - 1, char := char - 1, last := some (last - 1, lastChar)
           letters := letters ++ more }
  | _ => none

/-- The order of two lines by their keys. -/
def compareLines (keys : List Key) (xs ys : List Chars) : Ordering :=
  (keys.zip (xs.zip ys)).foldl (fun order (k, x, y) => order.then (compareKeys k.letters x y)) .eq

end Sorting

open Sorting in
/-- Writes the lines of its inputs in order, or says whether they are in order. -/
def sort : Program := Options.run { plain := "bcdfgnrsu", valued := "kto" } (fun c p => do
  let letters := (p.options.map Prod.fst).filter "bdfgnr".toList.contains
  match (p.values 'k').mapM fun w => (readKey w).elim (Except.error w) Except.ok with
  | .error w =>
    c.fail ("invalid number at field start: invalid count at start of ".toList ++ quoted w) 2
  | .ok keys =>
    let keys := (if keys.isEmpty then [{}] else keys).map fun k =>
      if k.letters.isEmpty then { k with letters } else k
    let mut texts := []
    for path in orInput p.operands do
      match ← readPath path with
      | .ok cs => texts := texts ++ bodies cs
      | .error e =>
        c.say ((if e = .isDirectory then "read failed: " else "cannot read: ").toList ++
          nameText path ++ ": ".toList ++ e.text.toList)
        Act.leave (.exited 2)
    let tab := (p.value? 't').bind List.head?
    let lines := texts.map fun line => (line, keys.map fun k => k.of tab line)
    let order (x y : Chars × List Chars) : Ordering :=
      (compareLines keys x.2 y.2).then
        (if p.has 'u' || p.has 's' then .eq
          else if letters.contains 'r' then compareChars y.1 x.1 else compareChars x.1 y.1)
    if p.has 'c' then
      let isWrong := fun ((x, y), _) => order x y == .gt || (p.has 'u' && order x y == .eq)
      match ((lines.zip (lines.drop 1)).zipIdx 2).find? isWrong with
      | none => return 0
      | some ((_, line), n) =>
        c.fail (p.operands.headD ['-'] ++ ':' :: decimal n ++ ": disorder: ".toList ++ line.1)
    else
      let sorted := lines.mergeSort fun x y => order x y != .gt
      let sorted := if !p.has 'u' then sorted
        else (sorted.foldl (fun done line =>
          if done.head?.any fun l => order l line == .eq then done else line :: done) []).reverse
      let text := unlines (sorted.map Prod.fst)
      match p.value? 'o' with
      | none =>
        c.put text 2
        return 0
      | some path => forEachPath c [path] (writePath · text) 2) 2

/-- Which of the lines that repeat one another `uniq` shows, and how it compares them. -/
structure Repeats where
  counts : Bool
  onlyRepeated : Bool
  onlySingle : Bool
  skipped : Nat
  ignoresCase : Bool

namespace Repeats

/-- What is shown of a line that came so many times. -/
def shown (r : Repeats) (line : Chars) (n : Nat) : Chars :=
  if (r.onlyRepeated && n = 1) || (r.onlySingle && n > 1) then []
  else (if r.counts then rightIn 7 (decimal n) ++ [' '] else []) ++ line ++ ['\n']

/-- What is compared of a line. -/
def key (r : Repeats) (line : Chars) : Chars :=
  let cs := Sorting.dropFields none r.skipped line
  if r.ignoresCase then cs.map Char.toLower else cs

/-- One more line, behind one that came so many times. -/
def step (r : Repeats) (s : Option (Chars × Nat)) (line : Chars) : Option (Chars × Nat) × Chars :=
  match s with
  | none => (some (line, 1), [])
  | some (before, n) =>
    if r.key before = r.key line then (some (before, n + 1), [])
    else (some (line, 1), r.shown before n)

end Repeats

/-- Shows lines that repeat the one before once. -/
def uniq : Program := Options.run { plain := "cdiu", valued := "f" } fun c p => do
  let r : Repeats :=
    { counts := p.has 'c', onlyRepeated := p.has 'd', onlySingle := p.has 'u'
      skipped := ((p.value? 'f').bind natural?).getD 0, ignoresCase := p.has 'i' }
  let (last, status) ← eachLine c (p.operands.take 1) r.step none
  c.put ((last.map fun (line, n) => r.shown line n).getD [])
  return status

/-- The lines that only the first of two ordered texts has, those that only the second has, and
those that both have, in columns, in at most `fuel` lines. -/
def columnsOf (hides : Char → Bool) : Nat → List Chars → List Chars → List Chars
  | 0, _, _ => []
  | fuel + 1, xs, ys =>
    let column (letter : Char) (front : List Char) (line : Chars) : List Chars :=
      if hides letter then []
      else [((front.filter (!hides ·)).map fun _ => '\t') ++ line]
    match xs, ys with
    | [], [] => []
    | x :: xs, [] => column '1' [] x ++ columnsOf hides fuel xs []
    | [], y :: ys => column '2' ['1'] y ++ columnsOf hides fuel [] ys
    | x :: xs, y :: ys =>
      match Sorting.compareChars x y with
      | .lt => column '1' [] x ++ columnsOf hides fuel xs (y :: ys)
      | .gt => column '2' ['1'] y ++ columnsOf hides fuel (x :: xs) ys
      | .eq => column '3' ['1', '2'] x ++ columnsOf hides fuel xs ys

/-- Compares two ordered texts line by line. -/
def comm : Program := Options.run { plain := "123" } fun c p => do
  match p.operands with
  | [first, second] =>
    match ← readPath first, ← readPath second with
    | .ok cs, .ok ds =>
      let (xs, ys) := (bodies cs, bodies ds)
      c.put (unlines (columnsOf p.has (xs.length + ys.length + 1) xs ys))
      return 0
    | .error e, _ =>
      c.sayOf first e.text
      return 1
    | _, .error e =>
      c.sayOf second e.text
      return 1
  | [] => c.refuse "missing operand".toList
  | [first] => c.refuse ("missing operand after ".toList ++ quoted first)
  | _ :: _ :: extra :: _ => c.refuse ("extra operand ".toList ++ quoted extra)

end SchemaCheck.Testing.Tools
