import SchemaCheck.Testing.Host.Chars

/-!
# Regular expressions

The expressions by which tools find text, and how they are read from their two written forms. In the
basic form the marks of groups, choices and counts have a backslash in front; in the extended form
it is the characters themselves that have one.
-/

namespace SchemaCheck.Testing

/-- The members of a set of characters. -/
inductive SetMember where
  | range (first last : Char)
  | kind (name : String)

/-- Whether a character is a member. -/
def SetMember.holds (c : Char) : SetMember → Bool
  | range first last => first ≤ c && c ≤ last
  | kind name => ofKind name c

/-- A place between characters. -/
inductive Place where
  | lineStart
  | lineEnd
  | wordEdge
  | noWordEdge
  | wordStart
  | wordEnd
  /-- No word goes on to the left. -/
  | openLeft
  /-- No word goes on to the right. -/
  | openRight

/-- A regular expression. -/
inductive Expression where
  | empty
  | any
  | char (c : Char)
  | set (isNegated : Bool) (members : List SetMember)
  | place (p : Place)
  | sequence (r s : Expression)
  | either (r s : Expression)
  /-- So many times at least, and at most so many if there is a bound. -/
  | repeated (r : Expression) (least : Nat) (most : Option Nat)
  | group (number : Nat) (r : Expression)
  /-- What a group has matched. -/
  | same (number : Nat)

namespace Expression

/-- A mark of an expression. -/
inductive Mark where
  | opening
  | closing
  | bar
  | count (least : Nat) (most : Option Nat)
  | start
  | finish
  | single (e : Expression)

/-- The members of a set up to the bracket that closes it, and what follows it, in at most `fuel`
steps. A bracket that comes first is a member. -/
def members (isFirst : Bool) : Nat → Chars → Except String (List SetMember × Chars)
  | 0, _ | _, [] => .error "Unmatched [, [^, [:, [., or [="
  | fuel + 1, c :: cs => do
    let next (m : SetMember) (cs : Chars) : Except String (List SetMember × Chars) :=
      (members false fuel cs).map fun (ms, rest) => (m :: ms, rest)
    match c, cs with
    | ']', _ => if isFirst then next (.range ']' ']') cs else return ([], cs)
    | '[', ':' :: rest =>
      let name := rest.takeWhile (· != ':')
      if kinds.contains (String.ofList name) then
        next (.kind (String.ofList name)) (rest.drop (name.length + 2))
      else throw "Invalid character class name"
    | c, '-' :: ']' :: _ => next (.range c c) cs
    | c, '-' :: last :: rest =>
      if last < c then throw "Invalid range end" else next (.range c last) rest
    | c, _ => next (.range c c) cs

/-- The bounds of a count behind the brace that opens it, and what follows the one that closes
it. -/
def bounds? (isExtended : Bool) (cs : Chars) : Option (Mark × Chars) :=
  let (least, rest) := digits 10 0 cs
  let (most, rest) : Option Nat × Chars := match rest with
    | ',' :: rest =>
      let (most, after) := digits 10 0 rest
      (if after.length = rest.length then none else some most, after)
    | rest => (some least, rest)
  match isExtended, rest with
  | true, '\x7d' :: rest | false, '\\' :: '\x7d' :: rest => some (.count least most, rest)
  | _, _ => none

/-- What a character behind a backslash stands for in both forms. -/
def letter (c : Char) : Expression :=
  let word : List SetMember := [.kind "alnum", .range '_' '_']
  match c with
  | 'w' => .set false word
  | 'W' => .set true word
  | 's' => .set false [.kind "space"]
  | 'S' => .set true [.kind "space"]
  | 'b' => .place .wordEdge
  | 'B' => .place .noWordEdge
  | '<' => .place .wordStart
  | '>' => .place .wordEnd
  | 'n' => .char '\n'
  | c => if '1' ≤ c && c ≤ '9' then .same (c.toNat - 0x30) else .char c

/-- What a character stands for where it is no mark: behind a backslash in the extended form, or
without one in the basic form. -/
def mark? (isExtended : Bool) (c : Char) (cs : Chars) : Except String (Option (Mark × Chars)) :=
  match c with
  | '(' => .ok (some (.opening, cs))
  | ')' => .ok (some (.closing, cs))
  | '|' => .ok (some (.bar, cs))
  | '+' => .ok (some (.count 1 none, cs))
  | '?' => .ok (some (.count 0 (some 1), cs))
  | '\x7b' =>
    match bounds? isExtended cs with
    | some found => .ok (some found)
    | none => if isExtended then .ok none else .error "Invalid content of \\\x7b\\\x7d"
  | _ => .ok none

/-- The first mark of a text that is not empty, and what follows it. `isFirst` says whether an
expression may begin here. -/
def mark (isExtended isFirst : Bool) : Chars → Except String (Mark × Chars)
  | [] => .ok (.single .empty, [])
  | ['\\'] => .error "Trailing backslash"
  | '\\' :: c :: cs => do
    if isExtended then return (.single (letter c), cs)
    else return (← mark? false c cs).getD (.single (letter c), cs)
  | '.' :: cs => .ok (.single .any, cs)
  | '[' :: '^' :: cs => do
    let (ms, rest) ← members true (cs.length + 1) cs
    return (.single (.set true ms), rest)
  | '[' :: cs => do
    let (ms, rest) ← members true (cs.length + 1) cs
    return (.single (.set false ms), rest)
  | '*' :: cs => .ok (.count 0 none, cs)
  | '^' :: cs => .ok (if isExtended || isFirst then .start else .single (.char '^'), cs)
  | '$' :: cs =>
    let isLast := cs.isEmpty || cs.take 2 == ['\\', ')'] || cs.take 2 == ['\\', '|']
    .ok (if isExtended || isLast then .finish else .single (.char '$'), cs)
  | c :: cs => do
    if isExtended then return (← mark? true c cs).getD (.single (.char c), cs)
    else return (.single (.char c), cs)

/-- What has been read of the expression at hand: the choices before it, what comes before its last
part, that part, to which a count belongs, and how many groups have begun in all. -/
structure Reading where
  choices : Option Expression := none
  before : Option Expression := none
  last : Option Expression := none
  groups : Nat := 0

namespace Reading

/-- One expression after another, where there is one. -/
def join : Option Expression → Option Expression → Option Expression
  | some e, some f => some (.sequence e f)
  | none, f => f
  | e, none => e

/-- All that has been read, as one expression. -/
def whole (r : Reading) : Expression :=
  let e := (join r.before r.last).getD .empty
  match r.choices with
  | some f => .either f e
  | none => e

/-- One part more. -/
def push (r : Reading) (e : Expression) : Reading :=
  { r with before := join r.before r.last, last := some e }

end Reading

/-- Reads on, down to the end of the group at a depth, in at most `fuel` steps. -/
def readFrom (isExtended : Bool) : Nat → Nat → Reading → Chars → Except String (Reading × Chars)
  | 0, _, r, cs => .ok (r, cs)
  | _ + 1, 0, r, [] => .ok (r, [])
  | _ + 1, _ + 1, _, [] => .error "Unmatched ( or \\("
  | fuel + 1, depth, r, cs => do
    let isFirst := r.before.isNone && r.last.isNone
    let (m, rest) ← mark isExtended isFirst cs
    match m with
    | .opening =>
      let number := r.groups + 1
      let (inner, rest) ← readFrom isExtended fuel (depth + 1) { groups := number } rest
      readFrom isExtended fuel depth
        { r.push (.group number inner.whole) with groups := inner.groups } rest
    | .closing => if depth = 0 then throw "Unmatched ) or \\)" else return (r, rest)
    | .bar => readFrom isExtended fuel depth { choices := some r.whole, groups := r.groups } rest
    | .start =>
      -- A star behind the mark for the start means itself, so that mark takes no count.
      let r := r.push (.place .lineStart)
      readFrom isExtended fuel depth { r with before := Reading.join r.before r.last, last := none }
        rest
    | .finish => readFrom isExtended fuel depth (r.push (.place .lineEnd)) rest
    | .single e => readFrom isExtended fuel depth (r.push e) rest
    | .count least most =>
      match r.last with
      | some e =>
        readFrom isExtended fuel depth { r with last := some (.repeated e least most) } rest
      | none =>
        if isExtended then throw "Invalid preceding regular expression"
        else readFrom isExtended fuel depth (r.push (.char (cs.headD '*'))) rest

/-- The expression that a text writes, and how many groups it has; or what is wrong with it. -/
def readGroups (isExtended : Bool) (cs : Chars) : Except String (Expression × Nat) := do
  let (r, _) ← readFrom isExtended (cs.length + 1) 0 {} cs
  return (r.whole, r.groups)

/-- The expression that a text writes, or what is wrong with it. -/
def read (isExtended : Bool) (cs : Chars) : Except String Expression :=
  (readGroups isExtended cs).map Prod.fst

/-- The expression that characters as they stand are. -/
def literally (cs : Chars) : Expression :=
  cs.foldr (fun c e => .sequence (.char c) e) .empty

end Expression

end SchemaCheck.Testing
