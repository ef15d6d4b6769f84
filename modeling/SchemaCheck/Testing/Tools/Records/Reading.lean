import SchemaCheck.Testing.Expression.Syntax
import SchemaCheck.Testing.Number.Floating

/-!
# Scripts for records

What the scripts of `awk` consist of, and how they are written: rules, each of which says what to do
with the records for which a condition holds. A script is read in two passes, first into tokens and
then into rules.
-/

namespace SchemaCheck.Testing.Tools.Records

/-- A part of a script that computes something. -/
inductive Term where
  | number (x : Float)
  | text (cs : Chars)
  | found (e : Expression)
  | variable (name : String)
  | element (array : String) (index : List Term)
  | field (number : Term)
  /-- Gives a value, which an operator may first combine with the one before. -/
  | assign (operator : String) (target value : Term)
  /-- Adds a number to a value; the term is the value after that or before it. -/
  | step (isBefore : Bool) (by_ : Float) (target : Term)
  | not (x : Term)
  | negative (x : Term)
  | binary (operator : String) (x y : Term)
  | choice (condition x y : Term)
  | member (index : List Term) (array : String)
  | call (name : String) (arguments : List Term)

/-- What a script does. -/
inductive Statement where
  | print (isFormat : Bool) (arguments : List Term) (target : Option Term)
  | term (x : Term)
  | block (ss : List Statement)
  | if_ (condition : Term) (yes no : Statement)
  /-- Goes on as long as a condition holds; it may be tested only behind the first time. -/
  | while_ (isLate : Bool) (condition : Term) (body after : Statement)
  | forEach (name array : String) (body : Statement)
  | delete (array : String) (index : List Term)
  | next
  | exit (status : Option Term)
  | break_
  | continue_

/-- When the statement of a rule is carried out. -/
inductive Pattern where
  | begin_
  | end_
  | always
  | holds (x : Term)
  | range (x y : Term)

/-- A script. -/
abbrev Script := List (Pattern × Statement)

/-! ## Tokens -/

/-- A token of a script. -/
inductive Token where
  | number (x : Float)
  | text (cs : Chars)
  | found (cs : Chars)
  | name (s : String)
  | mark (s : String)
  deriving BEq

/-- A token as messages show it. -/
def Token.shown : Token → String
  | number x => toString x
  | text cs | found cs => String.ofList cs
  | name s => s
  | mark "\n" => "end of line"
  | mark s => s

/-- The text up to a delimiter, in which escapes are read, and what follows it. In an expression
only those of control characters are. -/
def upTo (d : Char) : Chars → Option (Chars × Chars)
  | [] => none
  | ['\\'] => none
  | '\\' :: c :: cs =>
    (upTo d cs).map fun (taken, rest) =>
      (match c with
        | 'n' => '\n' :: taken
        | 't' => '\t' :: taken
        | 'r' => '\r' :: taken
        | c => if c == d || (d == '"' && c == '\\') then c :: taken else '\\' :: c :: taken, rest)
  | c :: cs =>
    if c == d then some ([], cs)
    else (upTo d cs).map fun (taken, rest) => (c :: taken, rest)

/-- The marks of two characters. -/
def doubleMarks : List String :=
  ["&&", "||", "==", "!=", "<=", ">=", "!~", "++", "--", "+=", "-=", "*=", "/=", "%=", "^=", ">>"]

/-- The words behind which an expression may begin. -/
def keywords : List String :=
  ["print", "printf", "if", "else", "while", "do", "for", "in", "return", "exit", "delete"]

/-- The tokens of a script, in at most `fuel` steps; `before` is the token before, which says
whether a slash divides. -/
def tokens : Nat → Option Token → Chars → Except String (List Token)
  | 0, _, _ | _, _, [] => .ok []
  | fuel + 1, before, c :: cs => do
    let next (t : Token) (rest : Chars) : Except String (List Token) :=
      return t :: (← tokens fuel (some t) rest)
    let divides : Bool := match before with
      | some (.number _) | some (.text _) | some (.found _) => true
      | some (.name s) => !keywords.contains s
      | some (.mark s) => [")", "]", "$", "++", "--"].contains s
      | none => false
    if c == '\\' && cs.head? = some '\n' then tokens fuel before cs.tail
    else if c == '#' then tokens fuel before (cs.dropWhile (· != '\n'))
    else if c == '\n' || c == ';' then next (.mark (String.ofList [c])) cs
    else if isWhite c then tokens fuel before cs
    else if c == '"' then
      match upTo '"' cs with
      | some (text, rest) => next (.text text) rest
      | none => throw ("runaway string constant \"" ++ String.ofList cs)
    else if c == '/' && !divides then
      match upTo '/' cs with
      | some (text, rest) => next (.found text) rest
      | none => throw ("runaway regular expression /" ++ String.ofList cs)
    else if c.isDigit || (c == '.' && cs.head?.any Char.isDigit) then
      match Floating.unsigned? (c :: cs) with
      | some (x, rest) => next (.number x) rest
      | none => next (.mark ".") cs
    else if c.isAlpha || c == '_' then
      let isPart (c : Char) : Bool := c.isAlphanum || c == '_'
      next (.name (String.ofList (c :: cs.takeWhile isPart))) (cs.dropWhile isPart)
    else
      let double := String.ofList (c :: cs.take 1)
      if doubleMarks.contains double then next (.mark double) cs.tail
      else next (.mark (String.ofList [c])) cs

/-! ## Terms -/

/-- What is read from the tokens of a script. -/
abbrev Parser := StateT (List Token) (Except String)

/-- Refuses a script at the next token. -/
def refuse {α : Type} : Parser α := do
  throw ("syntax error at or near " ++ ((← get).head?.map Token.shown).getD "end of file")

/-- Whether the next token is a mark or a word. -/
def isNext (s : String) : Parser Bool := do
  let t := (← get).head?
  return t == some (.mark s) || t == some (.name s)

/-- Takes a mark or a word, if it comes next, and says so. -/
def accept (s : String) : Parser Bool := do
  let found ← isNext s
  if found then modify List.tail
  return found

/-- Takes a mark or a word. -/
def expect (s : String) : Parser Unit := do
  if !(← accept s) then refuse

/-- Takes a name. -/
def name : Parser String := do
  match ← get with
  | .name s :: rest =>
    set rest
    return s
  | _ => refuse

/-- Passes over marks. -/
def skip (marks : List String) : Parser Unit :=
  modify fun ts => ts.dropWhile fun t => marks.any fun s => t == .mark s

/-- The functions that there are. -/
def functions : List String :=
  ["length", "substr", "index", "split", "sub", "gsub", "match", "sprintf", "tolower", "toupper",
    "int", "sqrt", "exp", "log", "sin", "cos", "atan2"]

/-- The operators of a level, from those that bind least to those that bind most. -/
def operators : Nat → List String
  | 1 => ["||"]
  | 2 => ["&&"]
  | 4 => ["~", "!~"]
  | 5 => ["<", "<=", "==", "!=", ">", ">="]
  | 7 => ["+", "-"]
  | 8 => ["*", "/", "%"]
  | _ => []

/-- Whether a token can begin the second part of two that stand side by side. -/
def begins : Token → Bool
  | .number _ | .text _ | .found _ => true
  | .name s => !keywords.contains s
  | .mark s => ["$", "!", "(", "++", "--"].contains s

/-- Whether a value can be given to a term. -/
def Term.isPlace : Term → Bool
  | .variable _ | .element _ _ | .field _ => true
  | _ => false

/-- The expression that a text writes. -/
def expression (cs : Chars) : Parser Expression :=
  match Expression.read true cs with
  | .ok e => return e
  | .error e => throw ("regular expression compile failed (" ++ e ++ ")\n" ++ String.ofList cs)

mutual

/-- A term whose operators bind at a level at least, in at most `fuel` steps. In what is printed `>`
does not compare. -/
def term (inPrint : Bool) : Nat → Nat → Parser Term
  | 0, _ => refuse
  | fuel + 1, 0 => do
    let x ← term inPrint fuel 1
    if ← accept "?" then
      let y ← term inPrint fuel 0
      expect ":"
      return .choice x y (← term inPrint fuel 0)
    else match ← get with
      | .mark s :: rest =>
        if x.isPlace && ["=", "+=", "-=", "*=", "/=", "%=", "^="].contains s then
          set rest
          return .assign (String.ofList s.toList.dropLast) x (← term inPrint fuel 0)
        else return x
      | _ => return x
  | fuel + 1, 9 => do
    if ← accept "!" then return .not (← term inPrint fuel 9)
    else if ← accept "-" then return .negative (← term inPrint fuel 9)
    else if ← accept "+" then return .negative (.negative (← term inPrint fuel 9))
    else
      let x ← term inPrint fuel 10
      if ← accept "^" then return .binary "^" x (← term inPrint fuel 9) else return x
  | fuel + 1, 10 => do
    if ← accept "++" then return .step true 1.0 (← term inPrint fuel 10)
    else if ← accept "--" then return .step true (-1.0) (← term inPrint fuel 10)
    else
      let x ← term inPrint fuel 11
      if x.isPlace && (← accept "++") then return .step false 1.0 x
      else if x.isPlace && (← accept "--") then return .step false (-1.0) x
      else return x
  | fuel + 1, level => do
    if level < 9 then
      let x ← term inPrint fuel (level + 1)
      more inPrint fuel level x
    else match ← get with
      | .number x :: rest =>
        set rest
        return .number x
      | .text cs :: rest =>
        set rest
        return .text cs
      | .found cs :: rest =>
        set rest
        return .found (← expression cs)
      | .mark "$" :: rest =>
        set rest
        let isStep := rest.head? == some (.mark "++") || rest.head? == some (.mark "--")
        return .field (← term inPrint fuel (if isStep then 10 else 11))
      | .mark "(" :: rest =>
        set rest
        let xs ← terms fuel ")"
        match xs, (← accept "in") with
        | [x], false => return x
        | xs, true => return .member xs (← name)
        | _, _ => refuse
      | .name s :: rest =>
        set rest
        if functions.contains s then
          if ← accept "(" then return .call s (← terms fuel ")") else return .call s []
        else if keywords.contains s then
          set (Token.name s :: rest)
          refuse
        else if ← accept "[" then return .element s (← terms fuel "]")
        else return .variable s
      | _ => refuse

/-- A term with all that follows it at a level. -/
def more (inPrint : Bool) : Nat → Nat → Term → Parser Term
  | 0, _, x => return x
  | fuel + 1, level, x => do
    match level, ← get with
    | 3, .name "in" :: rest =>
      set rest
      more inPrint fuel level (.member [x] (← name))
    | 6, t :: _ =>
      if begins t then more inPrint fuel level (.binary " " x (← term inPrint fuel 7))
      else return x
    | level, .mark s :: rest =>
      if (operators level).contains s && !(inPrint && s == ">") then
        set rest
        if s == "&&" || s == "||" then skip ["\n"]
        more inPrint fuel level (.binary s x (← term inPrint fuel (level + 1)))
      else return x
    | _, _ => return x

/-- Terms with commas between them, up to a mark that closes them. -/
def terms : Nat → String → Parser (List Term)
  | 0, _ => refuse
  | fuel + 1, closing => do
    if ← accept closing then return []
    let x ← term false fuel 0
    if ← accept "," then
      skip ["\n"]
      return x :: (← terms fuel closing)
    expect closing
    return [x]

end

/-! ## Statements -/

/-- Whether a simple statement is at its end. -/
def isEnd : List Token → Bool
  | [] => true
  | t :: _ => ["\n", ";", "\x7d"].any fun s => t == .mark s

/-- What is printed: terms, which may stand in parentheses. -/
def printed : Nat → Parser (List Term)
  | 0 => refuse
  | fuel + 1 => do
    let ts ← get
    match (if ts.head? == some (.mark "(") then (terms fuel ")").run ts.tail else .error "") with
    | .ok (xs, rest) =>
      if isEnd rest || rest.head? == some (.mark ">") || rest.head? == some (.mark ">>") then
        set rest
        return xs
      else bare fuel
    | .error _ => bare fuel
where
  /-- Terms without parentheses around them, in at most `fuel` steps. -/
  bare : Nat → Parser (List Term)
    | 0 => refuse
    | fuel + 1 => do
      let ts ← get
      if isEnd ts || ts.head? == some (.mark ">") then return []
      let x ← term true fuel 0
      if ← accept "," then
        skip ["\n"]
        return x :: (← bare fuel)
      return [x]

/-- A simple statement, which a line end or a semicolon ends. -/
def simple (fuel : Nat) : Parser Statement := do
  let orNone (x : Parser Term) : Parser (Option Term) := do
    if isEnd (← get) then return none else return some (← x)
  match ← get with
  | .name "print" :: rest | .name "printf" :: rest =>
    let isFormat := (← get).head? == some (.name "printf")
    set rest
    let xs ← printed fuel
    let target ← if (← accept ">") || (← accept ">>") then some <$> term true fuel 6 else pure none
    return .print isFormat xs target
  | .name "next" :: rest =>
    set rest
    return .next
  | .name "exit" :: rest =>
    set rest
    return .exit (← orNone (term false fuel 0))
  | .name "break" :: rest =>
    set rest
    return .break_
  | .name "continue" :: rest =>
    set rest
    return .continue_
  | .name "delete" :: rest =>
    set rest
    let array ← name
    return .delete array (← if ← accept "[" then terms fuel "]" else pure [])
  | ts => if isEnd ts then return .block [] else return .term (← term false fuel 0)

/-- Ends a simple statement. -/
def endSimple : Parser Unit := do
  if !(← accept ";") && !(← accept "\n") && !(isEnd (← get)) then refuse

mutual

/-- A statement, in at most `fuel` steps. -/
def statement : Nat → Parser Statement
  | 0 => refuse
  | fuel + 1 => do
    let condition : Parser Term := do
      expect "("
      let x ← term false (fuel + 100) 0
      expect ")"
      skip ["\n"]
      return x
    if ← accept "\x7b" then return .block (← block fuel)
    else if ← accept "if" then
      let x ← condition
      let yes ← statement fuel
      let ts ← get
      skip ["\n", ";"]
      if ← accept "else" then
        skip ["\n"]
        return .if_ x yes (← statement fuel)
      else
        set ts
        return .if_ x yes (.block [])
    else if ← accept "while" then
      let x ← condition
      return .while_ false x (← statement fuel) (.block [])
    else if ← accept "do" then
      skip ["\n"]
      let body ← statement fuel
      skip ["\n", ";"]
      expect "while"
      let x ← condition
      endSimple
      return .while_ true x body (.block [])
    else if ← accept "for" then
      match ← get with
      | .mark "(" :: .name x :: .name "in" :: .name array :: .mark ")" :: rest =>
        set rest
        skip ["\n"]
        return .forEach x array (← statement fuel)
      | _ =>
        expect "("
        let first ← simple (fuel + 100)
        expect ";"
        let x ← if ← isNext ";" then pure (Term.number 1.0) else term false (fuel + 100) 0
        expect ";"
        let after ← if ← isNext ")" then pure (Statement.block []) else simple (fuel + 100)
        expect ")"
        skip ["\n"]
        return .block [first, .while_ false x (← statement fuel) after]
    else
      let s ← simple (fuel + 100)
      endSimple
      return s

/-- The statements up to the brace that closes them. -/
def block : Nat → Parser (List Statement)
  | 0 => refuse
  | fuel + 1 => do
    skip ["\n", ";"]
    if ← accept "\x7d" then return []
    let s ← statement fuel
    return s :: (← block fuel)

end

/-- The rules of a script, in at most `fuel` steps. -/
def rules : Nat → Parser Script
  | 0 => return []
  | fuel + 1 => do
    skip ["\n", ";"]
    if (← get).isEmpty then return []
    let pattern ← if ← accept "BEGIN" then pure Pattern.begin_
      else if ← accept "END" then pure Pattern.end_
      else if ← isNext "\x7b" then pure Pattern.always
      else do
        let x ← term false (fuel + 100) 0
        if ← accept "," then pure (Pattern.range x (← term false (fuel + 100) 0))
        else pure (Pattern.holds x)
    let body ← if ← accept "\x7b" then Statement.block <$> block (fuel + 100)
      else pure (Statement.print false [] none)
    return (pattern, body) :: (← rules fuel)

/-- The script that a text writes, or what is wrong with it. -/
def read (cs : Chars) : Except String Script := do
  let ts ← tokens (cs.length + 1) none cs
  return (← (rules (ts.length + 1)).run ts).1

end SchemaCheck.Testing.Tools.Records
