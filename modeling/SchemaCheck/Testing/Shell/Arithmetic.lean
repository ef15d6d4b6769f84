import SchemaCheck.Testing.Shell.Printing

/-!
# Arithmetic

The arithmetic of shell scripts: numbers of 64 bits, the operators that bind from the assignments up
to the signs, and names for the values of parameters. An operand that the outcome does not hang on
is not computed.
-/

namespace SchemaCheck.Testing.Shell.Arithmetic

/-- A token. -/
inductive Token where
  | number (n : Int)
  | name (cs : Chars)
  | operator (text : String)
  deriving DecidableEq

/-- A term. -/
inductive Term where
  | number (n : Int)
  | name (cs : Chars)
  | unary (operator : String) (t : Term)
  | binary (operator : String) (t u : Term)
  | both (t u : Term)
  | either (t u : Term)
  | choose (condition t u : Term)
  /-- An assignment; the operator, if there is one, joins the old value to the new. -/
  | assign (name : Chars) (operator : String) (t : Term)

/-- The operators, longer ones before those they begin with. -/
def operators : List String :=
  ["<<=", ">>=", "<<", ">>", "<=", ">=", "==", "!=", "&&", "||", "+=", "-=", "*=", "/=", "%=", "&=",
    "^=", "|=", "<", ">", "=", "!", "&", "|", "^", "+", "-", "*", "/", "%", "~", "?", ":", "(", ")"]

/-- A number brought into 64 bits by leaving out the higher ones. -/
def wrap (n : Int) : Int := Int.bmod n 0x10000000000000000

/-- The tokens of characters, in at most `fuel` steps. A character that begins none is an operator
that no rule knows. -/
def tokens : Nat → Chars → List Token
  | 0, _ => []
  | _ + 1, [] => []
  | fuel + 1, c :: cs =>
    if isWhite c then tokens fuel cs
    else if c.isDigit then
      let (n, rest) := integer (c :: cs)
      .number (clamp n) :: tokens fuel rest
    else if isNameStart c then
      let (name, rest) := (c :: cs).span isNamePart
      .name name :: tokens fuel rest
    else match operators.find? fun o => o.toList.isPrefixOf (c :: cs) with
      | some o => .operator o :: tokens fuel ((c :: cs).drop o.length)
      | none => .operator (String.singleton c) :: tokens fuel cs

/-- How tightly a binary operator binds. -/
def strength? : String → Option Nat
  | "||" => some 1
  | "&&" => some 2
  | "|" => some 3
  | "^" => some 4
  | "&" => some 5
  | "==" | "!=" => some 6
  | "<" | "<=" | ">" | ">=" => some 7
  | "<<" | ">>" => some 8
  | "+" | "-" => some 9
  | "*" | "/" | "%" => some 10
  | _ => none

/-- The operator that an assignment contains. -/
def assignment? : String → Option String
  | "=" => some ""
  | "*=" => some "*"
  | "/=" => some "/"
  | "%=" => some "%"
  | "+=" => some "+"
  | "-=" => some "-"
  | "<<=" => some "<<"
  | ">>=" => some ">>"
  | "&=" => some "&"
  | "^=" => some "^"
  | "|=" => some "|"
  | _ => none

/-- Joins two terms. -/
def join (operator : String) (t u : Term) : Term :=
  match operator with
  | "&&" => .both t u
  | "||" => .either t u
  | o => .binary o t u

mutual

/-- An assignment, or a choice between two terms. -/
def assignment : Nat → List Token → Except String (Term × List Token)
  | 0, _ => .error "expecting primary"
  | fuel + 1, ts =>
    match ts with
    | .name x :: .operator o :: rest =>
      match assignment? o with
      | some o => do
        let (t, rest) ← assignment fuel rest
        return (.assign x o t, rest)
      | none => choice fuel ts
    | ts => choice fuel ts

/-- A choice between two terms, or a term without one. -/
def choice : Nat → List Token → Except String (Term × List Token)
  | 0, _ => .error "expecting primary"
  | fuel + 1, ts => do
    let (c, rest) ← binary 1 fuel ts
    match rest with
    | .operator "?" :: rest =>
      let (t, rest) ← assignment fuel rest
      match rest with
      | .operator ":" :: rest =>
        let (u, rest) ← choice fuel rest
        return (.choose c t u, rest)
      | _ => .error "expecting ':'"
    | rest => return (c, rest)

/-- Terms joined by operators that bind at least so tightly. -/
def binary (least : Nat) : Nat → List Token → Except String (Term × List Token)
  | 0, _ => .error "expecting primary"
  | fuel + 1, ts => do
    let (t, rest) ← primary fuel ts
    binaryAfter least t fuel rest

/-- What may follow a term, with the term. -/
def binaryAfter (least : Nat) (t : Term) : Nat → List Token → Except String (Term × List Token)
  | 0, _ => .error "expecting primary"
  | fuel + 1, ts =>
    match ts with
    | .operator o :: rest =>
      match strength? o with
      | some n =>
        if least ≤ n then do
          let (u, rest) ← binary (n + 1) fuel rest
          binaryAfter least (join o t u) fuel rest
        else .ok (t, ts)
      | none => .ok (t, ts)
    | ts => .ok (t, ts)

/-- A number, a name, a term in parentheses, or one of these with signs. -/
def primary : Nat → List Token → Except String (Term × List Token)
  | 0, _ => .error "expecting primary"
  | fuel + 1, ts =>
    match ts with
    | .number n :: rest => .ok (.number n, rest)
    | .name x :: rest => .ok (.name x, rest)
    | .operator "(" :: rest => do
      let (t, rest) ← assignment fuel rest
      match rest with
      | .operator ")" :: rest => return (t, rest)
      | _ => .error "expecting ')'"
    | .operator o :: rest =>
      if ["!", "~", "+", "-"].contains o then do
        let (t, rest) ← primary fuel rest
        return (.unary o t, rest)
      else .error "expecting primary"
    | [] => .error "expecting primary"

end

/-- The term that characters write. -/
def parse (cs : Chars) : Except String Term := do
  let ts := tokens (cs.length + 1) cs
  match ← assignment (4 * ts.length + 4) ts with
  | (t, []) => return t
  | _ => .error "expecting EOF"

/-- The number of a truth value. -/
def ofBool (b : Bool) : Int := if b then 1 else 0

/-- The value of an operator between two numbers. -/
def apply (operator : String) (m n : Int) : Except String Int :=
  match operator with
  | "|" => .ok (wrap ((unsigned m ||| unsigned n : Nat) : Int))
  | "^" => .ok (wrap ((unsigned m ^^^ unsigned n : Nat) : Int))
  | "&" => .ok (wrap ((unsigned m &&& unsigned n : Nat) : Int))
  | "==" => .ok (ofBool (m == n))
  | "!=" => .ok (ofBool (m != n))
  | "<" => .ok (ofBool (decide (m < n)))
  | "<=" => .ok (ofBool (decide (m ≤ n)))
  | ">" => .ok (ofBool (decide (m > n)))
  | ">=" => .ok (ofBool (decide (m ≥ n)))
  | "<<" => .ok (wrap (((unsigned m <<< (unsigned n % 64)) : Nat) : Int))
  | ">>" => .ok (m >>> (unsigned n % 64))
  | "+" => .ok (wrap (m + n))
  | "-" => .ok (wrap (m - n))
  | "*" => .ok (wrap (m * n))
  | "/" => if n = 0 then .error "division by zero" else .ok (wrap (Int.tdiv m n))
  | "%" => if n = 0 then .error "division by zero" else .ok (Int.tmod m n)
  | _ => .ok n

/-- The value of a term, where `look` gives the number of a parameter after the assignments made so
far, and those assignments. -/
def Term.evaluate {ε : Type} (fault : String → ε)
    (look : List (Chars × Int) → Chars → Except ε Int) :
    Term → StateT (List (Chars × Int)) (Except ε) Int
  | .number n => return n
  | .name x => do look (← get) x
  | .unary o t => do
    let n ← t.evaluate fault look
    match o with
    | "!" => return ofBool (n == 0)
    | "~" => return -n - 1
    | "-" => return wrap (-n)
    | _ => return n
  | .binary o t u => do
    let m ← t.evaluate fault look
    let n ← u.evaluate fault look
    match apply o m n with
    | .ok k => return k
    | .error e => throw (fault e)
  | .both t u => do
    if (← t.evaluate fault look) = 0 then return 0
    else return ofBool ((← u.evaluate fault look) != 0)
  | .either t u => do
    if (← t.evaluate fault look) ≠ 0 then return 1
    else return ofBool ((← u.evaluate fault look) != 0)
  | .choose c t u => do
    if (← c.evaluate fault look) ≠ 0 then t.evaluate fault look else u.evaluate fault look
  | .assign x o t => do
    let n ← t.evaluate fault look
    let k ←
      if o.isEmpty then pure n
      else do
        match apply o (← look (← get) x) n with
        | .ok k => pure k
        | .error e => throw (fault e)
    modify fun assigned => (x, k) :: assigned
    return k

end SchemaCheck.Testing.Shell.Arithmetic
