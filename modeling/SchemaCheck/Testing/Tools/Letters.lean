import SchemaCheck.Testing.Tools.Basic

/-!
# Single characters

The tool that goes through a text character by character: it replaces the characters of one set by
those of another, drops the characters of a set, or lets repeated ones stand once. A set is written
as a string in which escapes, ranges and kinds have a form of their own.
-/

namespace SchemaCheck.Testing.Tools

open Host

namespace Letters

/-- The characters of a text, and whether each was written with a backslash, in at most `fuel`
steps. -/
def unquote : Nat → Chars → List (Char × Bool)
  | 0, _ => []
  | _ + 1, [] => []
  | fuel + 1, '\\' :: c :: cs =>
    if isOctal c then
      let ds := ((c :: cs).take 3).takeWhile isOctal
      (Char.ofNat ((digits 8 0 ds).1 % 256), true) :: unquote fuel ((c :: cs).drop ds.length)
    else
      let d := match c with
        | 'a' => Char.ofNat 7
        | 'b' => Char.ofNat 8
        | 'f' => Char.ofNat 12
        | 'n' => '\n'
        | 'r' => '\r'
        | 't' => '\t'
        | 'v' => Char.ofNat 11
        | c => c
      (d, true) :: unquote fuel cs
  | fuel + 1, c :: cs => (c, false) :: unquote fuel cs

/-- The characters from one to another. -/
def between (first last : Char) : Chars :=
  (List.range (last.toNat + 1 - first.toNat)).map fun i => Char.ofNat (first.toNat + i)

/-- All characters. -/
def all : Chars := (List.range 256).map Char.ofNat

/-- The name of a kind up to the colon and the bracket that close it, and what follows them. -/
def kind? : List (Char × Bool) → Option (Chars × List (Char × Bool))
  | (':', false) :: (']', false) :: rest => some ([], rest)
  | (c, _) :: rest => (kind? rest).map fun (name, rest) => (c :: name, rest)
  | [] => none

/-- The characters of a set, in at most `fuel` steps. -/
def chars : Nat → List (Char × Bool) → Except Chars Chars
  | 0, _ | _, [] => .ok []
  | fuel + 1, (c, isQuoted) :: cs => do
    let plain : Except Chars Chars := match cs with
      | ('-', false) :: (last, _) :: rest =>
        if last < c then
          .error ("range-endpoints of '".toList ++ [c, '-', last] ++
            "' are in reverse collating sequence order".toList)
        else (chars fuel rest).map (between c last ++ ·)
      | cs => (chars fuel cs).map (c :: ·)
    match cs with
    | (':', false) :: rest =>
      if c != '[' || isQuoted then plain
      else match kind? rest with
        | none => plain
        | some (name, rest) =>
          if kinds.contains (String.ofList name) then
            return all.filter (ofKind (String.ofList name)) ++ (← chars fuel rest)
          else throw ("invalid character class ".toList ++ quoted name)
    | _ => plain

/-- The characters of a set as a word writes it. -/
def read (cs : Chars) : Except Chars Chars := chars (cs.length + 1) (unquote (cs.length + 1) cs)

/-- For each character whether it is in a set. -/
def membership (cs : Chars) : Array Bool :=
  cs.foldl (fun t c => t.setIfInBounds c.toNat true) (Array.replicate 256 false)

/-- What stands for each character: the last of the new ones stands for all that are left. -/
def table (olds news : Chars) : Array Char :=
  let last := news.getLastD ' '
  olds.zipIdx.foldl (fun t (c, i) => t.setIfInBounds c.toNat (news.getD i last)) all.toArray

/-- Characters of which repeated ones of a set stand once, with the character before them. -/
def squeeze (isIn : Array Bool) (before : Option Char) (cs : Chars) : Option Char × Chars :=
  let (before, out) := cs.foldl (fun (before, out) c =>
    if before = some c && isIn.getD c.toNat false then (before, out) else (some c, c :: out))
    (before, [])
  (before, out.reverse)

/-- Replaces, drops or squeezes the characters of a text of which a set is given, or all others. -/
def change (p : Parsed) (c : Invocation) (olds : Chars) (news : Option Chars) : Act Nat := do
  let isIn := membership olds
  let olds := if p.has 'c' || p.has 'C' then all.filter fun d => !isIn.getD d.toNat false else olds
  let isOld := membership olds
  let table := table olds (news.getD [])
  let changed (cs : Chars) : Chars :=
    if p.has 'd' then cs.filter fun d => !isOld.getD d.toNat false
    else if news.isSome then cs.map fun d => table.getD d.toNat d
    else cs
  let isSqueezed := membership (news.getD olds)
  match ← stream c 0 (fun before cs =>
    if p.has 's' then
      let (before, out) := squeeze isSqueezed before (changed cs)
      (before, out, true)
    else (none, changed cs, true)) Act.pieceLimit none with
  | .ok _ => return 0
  | .error e => c.fail ("read error: " ++ e.text).toList

end Letters

/-- Replaces, drops or squeezes characters. -/
def tr : Program := Options.run { plain := "cCds", inFront := true } fun c p =>
  let isAlone := p.has 'd' != p.has 's'
  match p.operands with
  | [] => c.refuse "missing operand".toList
  | [first] =>
    if !isAlone then do
      c.say ("missing operand after ".toList ++ quoted first)
      let _ ← Act.write 2 ("Two strings must be given when " ++ (if p.has 's' then
        "both deleting and squeezing repeats.\n" else "translating.\n")).toList
      let _ ← Act.write 2 ("Try '".toList ++ c.name ++ " --help' for more information.\n".toList)
      return 1
    else match Letters.read first with
      | .error e => c.fail e
      | .ok olds => Letters.change p c olds none
  | [first, second] =>
    match Letters.read first, Letters.read second with
    | .error e, _ | _, .error e => c.fail e
    | .ok olds, .ok news =>
      if news.isEmpty && !p.has 'd' then
        c.fail "when not truncating set1, string2 must be non-empty".toList
      else Letters.change p c olds (some news)
  | _ :: _ :: extra :: _ => c.refuse ("extra operand ".toList ++ quoted extra)

end SchemaCheck.Testing.Tools
