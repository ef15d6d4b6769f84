import SchemaCheck.Testing.Tools.Lines

/-!
# Copying

Tools that pass on what they read, or a part of it: its beginning, its end, or all of it in another
order.
-/

namespace SchemaCheck.Testing.Tools

open Host

/-- A character as `cat` shows it with marks for what cannot be seen. -/
def marked (p : Parsed) (c : Char) : Chars :=
  let has (letters : String) : Bool := letters.toList.any p.has
  if c == '\t' then (if has "AtT" then "^I".toList else [c])
  else if c == '\n' || !has "Aetv" then [c]
  else
    let n := c.toNat % 128
    (if c.toNat < 128 then [] else ['M', '-']) ++ (if n < 32 then ['^', Char.ofNat (n + 64)]
      else if n = 127 then ['^', '?'] else [Char.ofNat n])

/-- The lines of a text as `cat` shows them; the state is the number of the last line, and whether
it was empty. -/
def markedLine (p : Parsed) (s : Nat × Bool) (line : Chars) : (Nat × Bool) × Chars :=
  let body := Chars.body line
  if p.has 's' && s.2 && body.isEmpty then (s, [])
  else
    let isNumbered := if p.has 'b' then !body.isEmpty else p.has 'n'
    let n := if isNumbered then s.1 + 1 else s.1
    let front := if isNumbered then rightIn 6 (decimal n) ++ ['\t'] else []
    let ending := if ['A', 'e', 'E'].any p.has then ['$', '\n'] else ['\n']
    ((n, body.isEmpty),
      front ++ body.flatMap (marked p) ++ if line.getLast? = some '\n' then ending else [])

/-- Copies its inputs. -/
def cat : Program := Options.run { plain := "AbeEnstTuv" } fun c p => do
  if ((← Act.world).descriptor? 1).isNone then
    c.fail ("standard output: " ++ Refusal.badDescriptor.text).toList
  else if p.options.all fun o => o.1 == 'u' then
    forEachPath c (orInput p.operands) fun path => do
      withInput path fun d => stream c d (fun _ cs => ((), cs, true)) Act.pieceLimit ()
  else
    let mut state := (0, false)
    let mut status := 0
    for path in orInput p.operands do
      match ← readPath path with
      | .ok cs =>
        for line in Chars.lines cs do
          let (next, shown) := markedLine p state line
          state := next
          c.put shown
      | .error e =>
        c.sayOf path e.text
        status := 1
    return status

/-- Copies its input to its output and to files. -/
def tee : Program := Options.run { plain := "ai" } fun c p => do
  let mut targets := []
  let mut status := 0
  for path in p.operands do
    match ← openPath path
      { writes := true, creates := true, appends := p.has 'a', empties := !p.has 'a' } with
    | .ok d => targets := targets ++ [d]
    | .error e =>
      c.sayOf path e.text
      status := 1
  match ← Act.readAll 0 with
  | .error e => c.fail ("read error: " ++ e.text).toList
  | .ok cs =>
    c.put cs
    for d in targets do
      let _ ← Act.write d cs
    return status

/-- How much `yes` writes at once. -/
def yesSize : Nat := 8192

/-- Writes a line again and again. -/
def yes : Program := Options.run {} fun c p => do
  let line := (if p.operands.isEmpty then ['y'] else Chars.spaced p.operands) ++ ['\n']
  let block := (List.replicate (max 1 (yesSize / line.length)) line).flatten
  let rec again : Nat → Act Nat
    | 0 => return 0
    | fuel + 1 => do
      match ← Act.write 1 block with
      | .ok () => again fuel
      | .error e => c.fail ("standard output: " ++ e.text).toList
  again Act.pieceLimit

/-- How much of a text `head` or `tail` takes. -/
structure Extent where
  number : Nat := 10
  isOfLines : Bool := true
  /-- Whether all but so much is taken, or all from there on. -/
  isOther : Bool := false

/-- The extent that the last option states; `sign` says that it is the other one. -/
def readExtent (sign : Char) (p : Parsed) : Except Chars Extent :=
  (p.options.filter fun o => o.1 == 'n' || o.1 == 'c').foldlM (fun _ (letter, cs) =>
    let isSigned := cs.head? = some '+' || cs.head? = some '-'
    match sized? (if isSigned then cs.tail else cs) with
    | some number => .ok { number, isOfLines := letter == 'n', isOther := cs.head? = some sign }
    | none => .error ((if letter == 'n' then "invalid number of lines: "
        else "invalid number of bytes: ").toList ++ quoted cs)) {}
where
  /-- A number with a unit behind it, as sizes are written. -/
  sized? (cs : Chars) : Option Nat :=
    let (n, rest) := digits 10 0 cs
    let unit? : Option Nat := match rest with
      | [] => some 1
      | ['b'] => some 512
      | ['k'] | ['K'] => some 1024
      | ['M'] => some 1048576
      | _ => none
    if rest.length = cs.length then none else unit?.map (n * ·)

/-- The first word of `head` and `tail` with an option that is a number alone written out. -/
def spellCount : List Char → List Chars → List Chars
  | signs, (sign :: c :: cs) :: words =>
    if signs.contains sign && (c :: cs).all Char.isDigit then
      ['-', 'n'] :: (if sign == '+' then '+' :: c :: cs else c :: cs) :: words
    else (sign :: c :: cs) :: words
  | _, words => words

/-- Goes through files, with their names above them if there are many. -/
def eachFile (c : Invocation) (p : Parsed) (act : Nat → Act (Except Refusal Unit)) : Act Nat := do
  let paths := orInput p.operands
  let isNamed := p.has 'v' || (paths.length > 1 && !p.has 'q')
  let mut isFirst := true
  let mut status := 0
  for path in paths do
    let name := if path = ['-'] then "standard input".toList else path
    match ← (if path = ['-'] then pure (.ok 0) else openPath path { reads := true }) with
    | .error e =>
      c.say ("cannot open ".toList ++ quotedName path ++ " for reading: ".toList ++ e.text.toList)
      status := 1
    | .ok d =>
      if isNamed then
        c.put ((if isFirst then "" else "\n").toList ++ "==> ".toList ++ name ++ " <==\n".toList)
      isFirst := false
      match ← act d with
      | .ok () => pure ()
      | .error e =>
        c.say ("error reading ".toList ++ quotedName name ++ ": ".toList ++ e.text.toList)
        status := 1
      if path != ['-'] then close d
  return status

/-- How many characters the first lines of a text have, and how many of these lines there are
not. -/
def lengthOfLines : Nat → Chars → Nat → Nat × Nat
  | 0, _, length => (length, 0)
  | n, [], length => (length, n)
  | n + 1, c :: cs, length => lengthOfLines (if c == '\n' then n else n + 1) cs (length + 1)

/-- So many units of a text from its start on, or all but the last ones. -/
def Extent.first {α : Type} (e : Extent) (xs : List α) : List α :=
  xs.take (if e.isOther then xs.length - e.number else e.number)

/-- So many units of a text to its end, or all from one on. -/
def Extent.last {α : Type} (e : Extent) (xs : List α) : List α :=
  xs.drop (if e.isOther then e.number - 1 else xs.length - e.number)

/-- Copies characters or lines from the start of a descriptor on, in at most `fuel` pieces. What was
read too far is given back. -/
def copyFirst (c : Invocation) (isOfLines : Bool) (descriptor : Nat) :
    Nat → Nat → Act (Except Refusal Unit)
  | 0, _ | _, 0 => return .ok ()
  | fuel + 1, n => do
    match ← Act.read descriptor (if isOfLines then Act.blockSize else min n Act.blockSize) with
    | .error e => return .error e
    | .ok [] => return .ok ()
    | .ok cs =>
      let (taken, left) := if isOfLines then lengthOfLines n cs 0 else (cs.length, n - cs.length)
      Act.change fun w => w.unread descriptor (cs.length - taken)
      c.put (cs.take taken)
      copyFirst c isOfLines descriptor fuel left

/-- Copies what is taken of all the text of a descriptor. -/
def copyPart (c : Invocation) (descriptor : Nat) (part : Chars → Chars) :
    Act (Except Refusal Unit) := do
  match ← Act.readAll descriptor with
  | .error e => return .error e
  | .ok cs =>
    c.put (part cs)
    return .ok ()

/-- Copies the beginning of its inputs. -/
def head : Program := fun c =>
  Options.run { plain := "qv", valued := "nc" } (fun c p => do
    match readExtent '-' p with
    | .error e => c.fail e
    | .ok e =>
      eachFile c p fun d =>
        if !e.isOther then copyFirst c e.isOfLines d Act.pieceLimit e.number
        else copyPart c d fun cs =>
          if e.isOfLines then (e.first (Chars.lines cs)).flatten else e.first cs)
    1 { c with words := spellCount ['-'] c.words }

/-- Copies the end of its inputs. -/
def tail : Program := fun c =>
  Options.run { plain := "qv", valued := "nc" } (fun c p => do
    match readExtent '+' p with
    | .error e => c.fail e
    | .ok e =>
      eachFile c p fun d => copyPart c d fun cs =>
        if e.isOfLines then (e.last (Chars.lines cs)).flatten else e.last cs)
    1 { c with words := spellCount ['-', '+'] c.words }

/-- Copies its inputs with the last line first. -/
def tac : Program := Options.run {} fun c p =>
  showTexts c p.operands fun _ cs => (Chars.lines cs).reverse.flatten

/-- Copies its inputs with each line backwards. -/
def rev : Program := Options.run {} fun c p =>
  showTexts c p.operands fun _ cs => (Chars.lines cs).flatMap fun line =>
    (Chars.body line).reverse ++ (if line.getLast? = some '\n' then ['\n'] else [])

end SchemaCheck.Testing.Tools
