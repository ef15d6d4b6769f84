import SchemaCheck.Testing.Shell.Arithmetic
import SchemaCheck.Testing.Host.Files

/-!
# Conditions

The conditions that `test` decides: texts and numbers are compared, files are looked at, and
conditions are joined. Whether a word is an operator hangs on how many words there are and on what
follows it.
-/

namespace SchemaCheck.Testing.Shell.Condition

open Host (Content Node)

/-- What is asked about paths: the node of one, with its number; a link at its end is followed or
not. -/
abbrev View := Bool → Chars → Option (Nat × Node)

/-- The operators that ask something of one word. -/
def unaries : List String :=
  ["-r", "-w", "-x", "-e", "-f", "-d", "-c", "-b", "-p", "-u", "-g", "-k", "-s", "-t", "-z", "-n",
    "-h", "-O", "-G", "-L", "-S"]

/-- The operators that compare two words. -/
def binaries : List String :=
  ["=", "!=", "<", ">", "-eq", "-ne", "-ge", "-gt", "-le", "-lt", "-nt", "-ot", "-ef"]

/-- A word as it is taken where a condition may begin or go on. -/
inductive Sign where
  | finish
  | operand
  | unary
  | binary
  | negation
  | conjunction
  | disjunction
  | opening
  | closing
  deriving DecidableEq

/-- How the first of some words is taken. -/
def sign : List Chars → Sign
  | [] => .finish
  | w :: rest =>
    let s := String.ofList w
    if unaries.contains s then
      match rest with
      | [] => .operand
      | [_] => .unary
      | o :: _ => if binaries.contains (String.ofList o) then .operand else .unary
    else if binaries.contains s then .binary
    else match s with
      | "!" => .negation
      | "-a" => .conjunction
      | "-o" => .disjunction
      | "(" => if rest.isEmpty then .operand else .opening
      | ")" => .closing
      | _ => .operand

/-- The number that a word is, in base ten, with white space around it. -/
def number (w : Chars) : Except String Int :=
  let trimmed := ((w.dropWhile isWhite).reverse.dropWhile isWhite).reverse
  let (negative, ds) := match trimmed with
    | '-' :: ds => (true, ds)
    | '+' :: ds => (false, ds)
    | ds => (false, ds)
  let (n, rest) := digits 10 0 ds
  let value : Int := if negative then -(n : Int) else n
  if ds.isEmpty || !rest.isEmpty || clamp value ≠ value then
    .error ("Illegal number: " ++ String.ofList w)
  else .ok value

/-- What an operator says of two words. -/
def compare (look : View) (operator : String) (v w : Chars) : Except String Bool :=
  let numbers (p : Int → Int → Bool) : Except String Bool := do
    return p (← number v) (← number w)
  match operator with
  | "=" => .ok (v == w)
  | "!=" => .ok (v != w)
  | "<" => .ok (Chars.before v w)
  | ">" => .ok (Chars.before w v)
  | "-eq" => numbers fun m n => m == n
  | "-ne" => numbers fun m n => m != n
  | "-ge" => numbers fun m n => decide (m ≥ n)
  | "-gt" => numbers fun m n => decide (m > n)
  | "-le" => numbers fun m n => decide (m ≤ n)
  | "-lt" => numbers fun m n => decide (m < n)
  | "-nt" => .ok (match look true v, look true w with
    | some x, some y => decide (x.2.changed > y.2.changed)
    | x, none => x.isSome
    | none, some _ => false)
  | "-ot" => .ok (match look true v, look true w with
    | some x, some y => decide (x.2.changed < y.2.changed)
    | none, y => y.isSome
    | some _, none => false)
  | "-ef" => .ok (match look true v, look true w with
    | some x, some y => x.1 == y.1
    | _, _ => false)
  | _ => .ok false

/-- Whether a node can be run or gone into. -/
def isRunnable (n : Node) : Bool :=
  match n.content with
  | .directory _ | .program _ => true
  | _ => n.mode &&& 0o111 != 0

/-- What an operator says of one word. -/
def inspect (look : View) (operator : String) (w : Chars) : Except String Bool :=
  let asks (p : Node → Bool) : Except String Bool :=
    .ok (((look true w).map fun n => p n.2).getD false)
  match operator with
  | "-z" => .ok w.isEmpty
  | "-n" => .ok !w.isEmpty
  | "-t" => do
    let _ ← number w
    return false
  | "-e" | "-r" | "-w" | "-O" | "-G" => asks fun _ => true
  | "-x" => asks isRunnable
  | "-d" => asks fun n => n.content.isDirectory
  | "-c" => asks fun n => match n.content with
    | .device _ => true
    | _ => false
  | "-p" => asks fun n => match n.content with
    | .pipe _ _ _ | .sink _ => true
    | _ => false
  | "-f" => asks fun n => match n.content with
    | .file _ _ | .program _ => true
    | _ => false
  | "-s" => asks fun n => match n.content with
    | .program _ => true
    | c => c.size != 0
  | "-u" => asks fun n => n.mode &&& 0o4000 != 0
  | "-g" => asks fun n => n.mode &&& 0o2000 != 0
  | "-k" => asks fun n => n.mode &&& 0o1000 != 0
  | "-h" | "-L" => .ok (match look false w with
    | some (_, n) => match n.content with
      | .link _ => true
      | _ => false
    | none => false)
  | _ => .ok false

mutual

/-- Conditions of which one has to hold, and the words after them. -/
def disjunction (look : View) : Nat → Sign → List Chars → Except String (Bool × List Chars)
  | 0, _, ws => .ok (false, ws)
  | fuel + 1, s, ws => do
    let (a, ws) ← conjunction look fuel s ws
    match sign ws with
    | .disjunction =>
      let (b, ws) ← disjunction look fuel (sign ws.tail) ws.tail
      return (a || b, ws)
    | _ => return (a, ws)

/-- Conditions that all have to hold. -/
def conjunction (look : View) : Nat → Sign → List Chars → Except String (Bool × List Chars)
  | 0, _, ws => .ok (false, ws)
  | fuel + 1, s, ws => do
    let (a, ws) ← negation look fuel s ws
    match sign ws with
    | .conjunction =>
      let (b, ws) ← conjunction look fuel (sign ws.tail) ws.tail
      return (a && b, ws)
    | _ => return (a, ws)

/-- A condition or its opposite. -/
def negation (look : View) : Nat → Sign → List Chars → Except String (Bool × List Chars)
  | 0, _, ws => .ok (false, ws)
  | fuel + 1, s, ws =>
    match s with
    | .negation => do
      let (a, ws) ← negation look fuel (sign ws.tail) ws.tail
      return (!a, ws)
    | s => primary look fuel s ws

/-- A condition without others in it, or one in parentheses. -/
def primary (look : View) : Nat → Sign → List Chars → Except String (Bool × List Chars)
  | 0, _, ws => .ok (false, ws)
  | fuel + 1, s, ws =>
    match s, ws with
    | .finish, ws => .ok (false, ws)
    | _, [] => .ok (false, [])
    | .opening, _ :: ws =>
      match sign ws with
      | .closing => .ok (false, ws)
      | s => do
        let (a, ws) ← disjunction look fuel s ws
        match sign ws with
        | .closing => return (a, ws.tail)
        | _ => .error "closing paren expected"
    | .unary, o :: w :: ws => do return (← inspect look (String.ofList o) w, ws)
    | _, v :: ws =>
      match sign ws, ws with
      | .binary, o :: w :: ws => do return (← compare look (String.ofList o) v w, ws)
      | .binary, [o] => .error (String.ofList o ++ ": argument expected")
      | _, ws => .ok (!v.isEmpty, ws)

end

/-- The words of a condition without parentheses around all of them, and how the first is taken. -/
def ungrouped (ws : List Chars) : Sign × List Chars :=
  if ws.head? = some ['('] && ws.getLast? = some [')'] then
    (sign ws.tail.dropLast, ws.tail.dropLast)
  else (sign ws, ws)

/-- The words of a condition by how many there are: whether it is negated, how the first word is
taken and the words themselves. Among three words an operator in the middle comes before all else;
two negations in front of four words count once. -/
def arranged (ws : List Chars) : Bool × Sign × List Chars :=
  let three (ws : List Chars) : Bool × Sign × List Chars :=
    match ws with
    | [v, o, w] =>
      if binaries.contains (String.ofList o) then (false, .operand, ws)
      else if v = ['!'] then (true, sign [o, w], [o, w])
      else (false, ungrouped ws)
    | ws => (false, ungrouped ws)
  match ws with
  | [_, _, _] => three ws
  | [v, _, _, _] => if v = ['!'] then (true, (three ws.tail).2) else (false, ungrouped ws)
  | ws => (false, sign ws, ws)

/-- Whether the condition that words state holds. -/
def evaluate (look : View) (words : List Chars) : Except String Bool := do
  let (isNegated, s, ws) := arranged words
  let (a, rest) ← disjunction look (4 * ws.length + 8) s ws
  match rest, ws[ws.length - rest.length - 1]? with
  | _ :: _, some w =>
    .error ((if w.isEmpty then "" else String.ofList w ++ ": ") ++ "unexpected operator")
  | _, _ => return a != isNegated

end SchemaCheck.Testing.Shell.Condition
