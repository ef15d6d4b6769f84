import SchemaCheck.Testing.Expression.Syntax

/-!
# Matches of regular expressions

Where an expression matches a text: of all matches the one that begins first, and of those that
begin there the longest. All ways of matching are gone through, those in which earlier parts are
longer first; of those that end at the same place only the first counts.
-/

namespace SchemaCheck.Testing.Expression

/-- What groups have matched: where each match begins and ends. -/
abbrev Groups := List (Nat × Nat × Nat)

/-- A way of matching: where it ends, and what groups have matched. -/
abbrev Way := Nat × Groups

/-- Whether two characters are alike. -/
def alike (ignoresCase : Bool) (c d : Char) : Bool :=
  c == d || (ignoresCase && c.toLower == d.toLower)

/-- Whether an expression stands for one character, and for which. -/
def single? (ignoresCase : Bool) : Expression → Option (Char → Bool)
  | .any => some fun _ => true
  | .char d => some fun c => alike ignoresCase c d
  | .set isNegated ms => some fun c =>
    let holds (c : Char) : Bool := ms.any (SetMember.holds c)
    (holds c || (ignoresCase && (holds c.toLower || holds c.toUpper))) != isNegated
  | _ => none

/-- Whether a place is at a position of a text. -/
def isAt (text : Array Char) (i : Nat) (p : Place) : Bool :=
  let isWord (i : Nat) : Bool := text[i]?.any fun c => c.isAlphanum || c == '_'
  let wordBefore := i > 0 && isWord (i - 1)
  match p with
  | .lineStart => i == 0
  | .lineEnd => i == text.size
  | .wordEdge => wordBefore != isWord i
  | .noWordEdge => wordBefore == isWord i
  | .wordStart => !wordBefore && isWord i
  | .wordEnd => wordBefore && !isWord i
  | .openLeft => !wordBefore
  | .openRight => !isWord i

/-- Of ways that end at the same place only the first. -/
def once (ws : List Way) : List Way :=
  (ws.foldl (fun found w => if found.any (·.1 == w.1) then found else w :: found) []).reverse

/-- How many characters from a position on are of a kind, in at most `fuel` steps. -/
def runLength (isOne : Char → Bool) (text : Array Char) : Nat → Nat → Nat
  | 0, _ => 0
  | fuel + 1, i => if text[i]?.any isOne then runLength isOne text fuel (i + 1) + 1 else 0

/-- The ways of going on at least so often, and at most `fuel` times, more often first. -/
def rounds (step : Way → List Way) : Nat → Nat → Way → List Way
  | 0, _, w => [w]
  | fuel + 1, least, w =>
    let more := (step w).flatMap fun v =>
      if v.1 = w.1 && least = 0 then [] else rounds step fuel (least - 1) v
    once (if least = 0 then more ++ [w] else more)

/-- The ways of matching from the end of another on. -/
def ways (ignoresCase : Bool) (text : Array Char) : Expression → Way → List Way
  | .empty, w => [w]
  | .place p, w => if isAt text w.1 p then [w] else []
  | .any, w => if w.1 < text.size then [(w.1 + 1, w.2)] else []
  | .char d, w => if text[w.1]?.any (alike ignoresCase · d) then [(w.1 + 1, w.2)] else []
  | .set isNegated ms, w =>
    let isOne := (single? ignoresCase (.set isNegated ms)).getD fun _ => false
    if text[w.1]?.any isOne then [(w.1 + 1, w.2)] else []
  | .sequence r s, w =>
    once ((ways ignoresCase text r w).flatMap (ways ignoresCase text s))
  | .either r s, w => once (ways ignoresCase text r w ++ ways ignoresCase text s w)
  | .group n r, w =>
    (ways ignoresCase text r w).map fun v => (v.1, (n, w.1, v.1) :: v.2.filter fun g => g.1 != n)
  | .same n, w =>
    match w.2.find? fun g => g.1 == n with
    | some (_, first, last) =>
      let isSame (k : Nat) : Bool := text[w.1 + k]?.any fun c =>
        text[first + k]?.any (alike ignoresCase c)
      if (List.range (last - first)).all isSame then [(w.1 + (last - first), w.2)] else []
    | none => []
  | .repeated r least most, w =>
    let left := text.size - w.1
    match single? ignoresCase r with
    | some isOne =>
      let n := runLength isOne text (most.elim left (min left)) w.1
      if n < least then []
      else ((List.range (n + 1 - least)).map fun k => (w.1 + least + k, w.2)).reverse
    | none => rounds (ways ignoresCase text r) (most.getD (left + least + 1)) least w

/-- A match: where it begins and ends, and what its groups have matched. -/
structure Match where
  first : Nat
  last : Nat
  groups : Groups := []

/-- The longest match that begins at a position. -/
def matchAt? (ignoresCase : Bool) (text : Array Char) (e : Expression) (i : Nat) : Option Match :=
  (ways ignoresCase text e (i, [])).foldl (fun best (j, groups) =>
    if best.any (·.last ≥ j) then best else some ⟨i, j, groups⟩) none

/-- The first position, from one on, at which a match begins, in at most `fuel` tries. -/
def search (ignoresCase : Bool) (text : Array Char) (e : Expression) : Nat → Nat → Option Match
  | 0, _ => none
  | fuel + 1, i =>
    match matchAt? ignoresCase text e i with
    | some found => some found
    | none => search ignoresCase text e fuel (i + 1)

/-- The match of an expression that begins first from a position on. -/
def find? (ignoresCase : Bool) (text : Array Char) (e : Expression) (i : Nat) : Option Match :=
  search ignoresCase text e (text.size + 1 - i) i

/-- The characters between two positions. -/
def slice (text : Array Char) (i j : Nat) : Chars := (text.extract i j).toList

/-- What a group has matched; group zero is the match as a whole. -/
def Match.groupText (text : Array Char) (x : Match) (n : Nat) : Chars :=
  if n = 0 then slice text x.first x.last
  else match x.groups.find? fun g => g.1 == n with
    | some (_, i, j) => slice text i j
    | none => []

/-- Whether an expression matches somewhere in a text. -/
def occursIn (ignoresCase : Bool) (e : Expression) (cs : Chars) : Bool :=
  (find? ignoresCase cs.toArray e 0).isSome

/-- A text with matches replaced by what a function makes of them, from a position on, in at most
`fuel` steps, and how many matches there were. The function is given the number of the match; the
last match before ended at `before`. -/
def replaceFrom (ignoresCase : Bool) (text : Array Char) (e : Expression)
    (shown : Nat → Match → Chars) : Nat → Nat → Nat → Option Nat → Chars × Nat
  | 0, start, n, _ => (slice text start text.size, n)
  | fuel + 1, start, n, before =>
    match find? ignoresCase text e start with
    | none => (slice text start text.size, n)
    | some m =>
      let front := slice text start m.first
      -- An empty match right behind another one is none.
      let isMatch := m.last > m.first || before != some m.first
      let n := if isMatch then n + 1 else n
      let new := if isMatch then shown n m else []
      if m.last > m.first then
        let (rest, n) := replaceFrom ignoresCase text e shown fuel m.last n (some m.last)
        (front ++ new ++ rest, n)
      else if m.first ≥ text.size then (front ++ new, n)
      else
        let (rest, n) := replaceFrom ignoresCase text e shown fuel (m.first + 1) n (some m.last)
        (front ++ new ++ slice text m.first (m.first + 1) ++ rest, n)

/-- A text with matches replaced by what a function makes of them, and how many matches there
were. -/
def replace (ignoresCase : Bool) (cs : Chars) (e : Expression) (shown : Nat → Match → Chars) :
    Chars × Nat :=
  replaceFrom ignoresCase cs.toArray e shown (cs.length + 2) 0 0 none

end SchemaCheck.Testing.Expression
