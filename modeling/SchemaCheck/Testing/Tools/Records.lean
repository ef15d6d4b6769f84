import SchemaCheck.Testing.Expression.Matching
import SchemaCheck.Testing.Number.Layout
import SchemaCheck.Testing.Tools.Lines
import SchemaCheck.Testing.Tools.Records.Reading

/-!
# Working through records

The tool that goes through lines by a script of rules. A line is a record that consists of fields;
values are numbers or texts, and a text that came from outside may count as a number.
-/

namespace SchemaCheck.Testing.Tools

open Host

namespace Records

/-- A value. -/
inductive Value where
  | unset
  | number (x : Float)
  | text (cs : Chars)
  /-- A text from outside, which may be a number. -/
  | input (cs : Chars)

namespace Value

/-- The value of a number. -/
def ofNat (n : Nat) : Value := .number (Float.ofNat n)

/-- The value of a condition. -/
def ofBool (b : Bool) : Value := ofNat (if b then 1 else 0)

/-- The text of a value. -/
def chars : Value → Chars
  | unset => []
  | number x =>
    if x.floor == x && x.abs < 1e16 then
      (if x < 0 then ['-'] else []) ++ decimal x.abs.toUInt64.toNat
    else Layout.floating ⟨[], 0, none⟩ 'g' x
  | text cs | input cs => cs

/-- The number of a value, which a text may begin with. -/
def float : Value → Float
  | unset => 0
  | number x => x
  | text cs | input cs => (Floating.read cs).1

/-- A value as a whole number. -/
def int (v : Value) : Int :=
  let x := v.float
  if x < 0 then -(Int.ofNat x.abs.toUInt64.toNat) else Int.ofNat x.toUInt64.toNat

/-- Whether a value counts as a number. -/
def isNumber : Value → Bool
  | unset | number _ => true
  | text _ => false
  | input cs =>
    let rest := (Floating.read cs).2
    rest.length < cs.length && rest.all isWhite

/-- Whether a value counts as true. -/
def isTrue (v : Value) : Bool :=
  match v with
  | unset | number _ => v.float != 0
  | text cs => !cs.isEmpty
  | input cs => if v.isNumber then v.float != 0 else !cs.isEmpty

/-- The order of two values: as numbers if both are. -/
def compare (v w : Value) : Ordering :=
  if v.isNumber && w.isNumber then
    if v.float < w.float then .lt else if v.float == w.float then .eq else .gt
  else if v.chars = w.chars then .eq else if Chars.before v.chars w.chars then .lt else .gt

end Value

/-- What a script remembers. -/
structure Memory where
  values : List (String × Value) := []
  arrays : List (String × List (Chars × Value)) := []
  record : Chars := []
  fields : List Chars := []
  /-- The rules whose ranges go on. -/
  ranges : List Nat := []
  /-- The files that are written to. -/
  targets : List (Chars × Nat) := []

/-- What a script does. -/
abbrev Run := StateT Memory Act

/-- How a script goes on. -/
inductive Flow where
  | on
  | next
  | break_
  | continue_
  | exit (status : Nat)

/-- An element of a list of values by name, which comes last if it is new. -/
def insert {κ α : Type} [BEq κ] (k : κ) (a : α) : List (κ × α) → List (κ × α)
  | [] => [(k, a)]
  | (l, b) :: rest => if l == k then (k, a) :: rest else (l, b) :: insert k a rest

/-- The text of a variable. -/
def Memory.textOf (m : Memory) (name : String) : Chars :=
  ((m.values.lookup name).getD .unset).chars

/-- The words between blanks. -/
def wordsOf (cs : Chars) : List Chars :=
  (Chars.splitAt ' ' (cs.map fun c => if isWhite c then ' ' else c)).filter (!·.isEmpty)

/-- The pieces of a text between the matches of an expression, in at most `fuel` pieces. -/
def piecesBetween (e : Expression) : Nat → Chars → List Chars
  | 0, cs => [cs]
  | fuel + 1, cs =>
    match Expression.find? false cs.toArray e 0 with
    | none => [cs]
    | some m => if m.first = m.last then [cs]
      else cs.take m.first :: piecesBetween e fuel (cs.drop m.last)

/-- The pieces of a text between separators. -/
def split (separator cs : Chars) : List Chars :=
  if cs.isEmpty then []
  else match separator with
  | [' '] => wordsOf cs
  | [] => cs.map fun c => [c]
  | [c] => Chars.splitAt c cs
  | separator =>
    match Expression.read true separator with
    | .ok e => piecesBetween e cs.length cs
    | .error _ => [cs]

/-- Notes how many fields there are. -/
def Memory.counted (m : Memory) : Memory :=
  { m with values := insert "NF" (.ofNat m.fields.length) m.values }

/-- Puts another record in the place of the one at hand. -/
def Memory.withRecord (m : Memory) (cs : Chars) : Memory :=
  { m with record := cs, fields := split (m.textOf "FS") cs }.counted

/-- Puts other fields in the place of those at hand. -/
def Memory.withFields (m : Memory) (fields : List Chars) : Memory :=
  { m with fields, record := (m.textOf "OFS").intercalate fields }.counted

/-- The value of a field; the one of number zero is the record. -/
def Memory.field (m : Memory) (n : Nat) : Value :=
  if n = 0 then .input m.record else (m.fields[n - 1]?).elim .unset .input

/-- Gives a value to a field. -/
def Memory.setField (m : Memory) (n : Nat) (v : Value) : Memory :=
  if n = 0 then m.withRecord v.chars
  else m.withFields ((m.fields ++ List.replicate (n - m.fields.length) []).set (n - 1) v.chars)

/-- Gives a value to a variable. -/
def Memory.setVariable (m : Memory) (name : String) (v : Value) : Memory :=
  if name == "NF" then
    let n := v.int.toNat
    m.withFields (m.fields.take n ++ List.replicate (n - m.fields.length) [])
  else { m with values := insert name v m.values }

/-- The elements of an array. -/
def Memory.array (m : Memory) (name : String) : List (Chars × Value) :=
  (m.arrays.lookup name).getD []

/-- Puts other elements into an array. -/
def Memory.setArray (m : Memory) (name : String) (elements : List (Chars × Value)) : Memory :=
  { m with arrays := insert name elements m.arrays }

/-- The keys of an array in the order in which they are gone through: by a hash of their characters,
and the new ones before the old. -/
def Memory.keys (m : Memory) (name : String) : List Chars :=
  let place (cs : Chars) : Nat :=
    (cs.foldl (fun (h : UInt32) c => (h ^^^ c.toNat.toUInt32) * 16777619) 2166136261).toNat % 64
  ((m.array name).map Prod.fst).reverse.mergeSort fun k l => place k ≤ place l

/-- Values in a format, in at most `fuel` steps. -/
def formatted : Nat → Chars → List Value → Chars
  | 0, _, _ | _, [], _ => []
  | fuel + 1, '%' :: '%' :: cs, vs => '%' :: formatted fuel cs vs
  | fuel + 1, '%' :: cs, vs =>
    let (flags, cs) := cs.span "-+ #0".toList.contains
    let measure (cs : Chars) (vs : List Value) : Nat × Chars × List Value := match cs with
      | '*' :: cs => ((vs.headD .unset).int.toNat, cs, vs.tail)
      | cs => ((digits 10 0 cs).1, (digits 10 0 cs).2, vs)
    let (width, cs, vs) := measure cs vs
    let (precision, cs, vs) : Option Nat × Chars × List Value := match cs with
      | '.' :: cs =>
        let (n, cs, vs) := measure cs vs
        (some n, cs, vs)
      | cs => (none, cs, vs)
    let l : Layout := ⟨flags, width, precision⟩
    let v := vs.headD .unset
    match cs with
    | [] => []
    | c :: cs =>
      (if c == 'd' || c == 'i' then l.signed v.int
        else if ['o', 'x', 'X', 'u'].contains c then l.unsigned c v.int.toNat
        else if c == 'c' then
          l.pad (match v with
            | .number x => [Char.ofNat x.toUInt64.toNat]
            | v => v.chars.take 1)
        else if c == 's' then l.text v.chars
        else l.floating c v.float) ++ formatted fuel cs vs.tail
  | fuel + 1, c :: cs, vs => c :: formatted fuel cs vs

/-- The characters of a text from a position on, counted from one, and at most so many. -/
def substring (cs : Chars) (start : Int) (length : Option Int) : Chars :=
  let end_ : Int := match length with
    | some n => start + n
    | none => cs.length + 1
  (cs.take (end_ - 1).toNat).drop (start - 1).toNat

/-- The value of an operator between two values. -/
def operate (operator : String) (v w : Value) : Value :=
  let number (f : Float → Float → Float) : Value := .number (f v.float w.float)
  match operator with
  | "+" => number (· + ·)
  | "-" => number (· - ·)
  | "*" => number (· * ·)
  | "/" => number (· / ·)
  | "%" => number fun x y =>
    let q := (x / y).abs.floor
    x - (if (x < 0) == (y < 0) then q else -q) * y
  | "^" => number Float.pow
  | " " => .text (v.chars ++ w.chars)
  | "<" => .ofBool (v.compare w == .lt)
  | "<=" => .ofBool (v.compare w != .gt)
  | "==" => .ofBool (v.compare w == .eq)
  | "!=" => .ofBool (v.compare w != .eq)
  | ">" => .ofBool (v.compare w == .gt)
  | ">=" => .ofBool (v.compare w != .lt)
  | _ => w

/-- The value of a function that only computes. -/
def compute (name : String) (vs : List Value) : Value :=
  let v := vs.headD .unset
  let w := vs.getD 1 .unset
  match name with
  | "length" => .ofNat v.chars.length
  | "substr" => .text (substring v.chars w.int (vs[2]?.map Value.int))
  | "index" =>
    let cs := v.chars
    .ofNat (((List.range (cs.length + 1)).find? fun i =>
      w.chars.isPrefixOf (cs.drop i) && !cs.isEmpty).elim 0 (· + 1))
  | "sprintf" => .text (formatted (v.chars.length + 1) v.chars vs.tail)
  | "tolower" => .text (v.chars.map Char.toLower)
  | "toupper" => .text (v.chars.map Char.toUpper)
  | "int" => .number (if v.float < 0 then v.float.ceil else v.float.floor)
  | "sqrt" => .number v.float.sqrt
  | "exp" => .number v.float.exp
  | "log" => .number v.float.log
  | "sin" => .number v.float.sin
  | "cos" => .number v.float.cos
  | "atan2" => .number (Float.atan2 v.float w.float)
  | _ => .unset

/-- What stands in place of a match: an ampersand is the match itself. -/
def replacement (found : Chars) : Chars → Chars
  | '\\' :: '&' :: cs => '&' :: replacement found cs
  | '&' :: cs => found ++ replacement found cs
  | c :: cs => c :: replacement found cs
  | [] => []

mutual

/-- The value of a term, in at most `fuel` steps. -/
def eval (c : Invocation) : Nat → Term → Run Value
  | 0, _ => return .unset
  | fuel + 1, x => do
    match x with
    | .number x => return .number x
    | .text cs => return .text cs
    | .found e => return .ofBool (Expression.occursIn false e (← get).record)
    | .variable name => return ((← get).values.lookup name).getD .unset
    | .element array index =>
      let k ← key c fuel index
      match ((← get).array array).lookup k with
      | some v => return v
      | none =>
        modify fun m => m.setArray array (m.array array ++ [(k, .unset)])
        return .unset
    | .field n => return (← get).field (← eval c fuel n).int.toNat
    | .assign operator target value =>
      let w ← eval c fuel value
      let w ← if operator.isEmpty then pure w
        else pure (operate operator (← eval c fuel target) w)
      give c fuel target w
      return w
    | .step isBefore by_ target =>
      let v := (← eval c fuel target).float
      give c fuel target (.number (v + by_))
      return .number (if isBefore then v + by_ else v)
    | .not x => return .ofBool !(← eval c fuel x).isTrue
    | .negative x => return .number (-(← eval c fuel x).float)
    | .binary "&&" x y =>
      if (← eval c fuel x).isTrue then return .ofBool (← eval c fuel y).isTrue
      else return .ofBool false
    | .binary "||" x y =>
      if (← eval c fuel x).isTrue then return .ofBool true
      else return .ofBool (← eval c fuel y).isTrue
    | .binary operator x y =>
      let v ← eval c fuel x
      if operator == "~" || operator == "!~" then
        let e ← expressionOf c fuel y
        return .ofBool (Expression.occursIn false e v.chars == (operator == "~"))
      else return operate operator v (← eval c fuel y)
    | .choice x y z => if (← eval c fuel x).isTrue then eval c fuel y else eval c fuel z
    | .member index array =>
      let k ← key c fuel index
      return .ofBool (((← get).array array).lookup k).isSome
    | .call "length" [] => return .ofNat (← get).record.length
    | .call "length" [.variable name] =>
      let m ← get
      if (m.arrays.lookup name).isSome then return .ofNat (m.array name).length
      else return .ofNat (m.textOf name).length
    | .call "split" (x :: .variable array :: separator) =>
      let v ← eval c fuel x
      let pieces ← match separator with
        | .found e :: _ => pure (if v.chars.isEmpty then []
            else piecesBetween e v.chars.length v.chars)
        | s :: _ => pure (split (← eval c fuel s).chars v.chars)
        | [] => pure (split ((← get).textOf "FS") v.chars)
      modify fun m => m.setArray array
        ((pieces.zipIdx 1).map fun (p, i) => (decimal i, Value.input p))
      return .ofNat pieces.length
    | .call "match" (x :: y :: _) =>
      let v ← eval c fuel x
      let e ← expressionOf c fuel y
      let found := Expression.find? false v.chars.toArray e 0
      let start := found.elim 0 (·.first + 1)
      modify fun m => (m.setVariable "RSTART" (.ofNat start)).setVariable "RLENGTH"
        (found.elim (.number (-1.0)) fun f => .ofNat (f.last - f.first))
      return .ofNat start
    | .call name (x :: y :: target) =>
      if name == "sub" || name == "gsub" then
        let e ← expressionOf c fuel x
        let new := (← eval c fuel y).chars
        let place := target.headD (.field (.number 0.0))
        let cs := (← eval c fuel place).chars
        let (text, n) := Expression.replace false cs e fun n m =>
          let found := m.groupText cs.toArray 0
          if name == "gsub" || n = 1 then replacement found new else found
        if n > 0 then give c fuel place (.text text)
        return .ofNat (if name == "gsub" then n else min n 1)
      else return compute name (← (x :: y :: target).mapM (eval c fuel))
    | .call name xs => return compute name (← xs.mapM (eval c fuel))

/-- The key of an index. -/
def key (c : Invocation) : Nat → List Term → Run Chars
  | 0, _ => return []
  | fuel + 1, index => do
    let vs ← index.mapM (eval c fuel)
    return ((← get).textOf "SUBSEP").intercalate (vs.map Value.chars)

/-- The expression that a term stands for. -/
def expressionOf (c : Invocation) : Nat → Term → Run Expression
  | 0, _ => return .empty
  | fuel + 1, x => do
    match x with
    | .found e => return e
    | x =>
      match Expression.read true (← eval c fuel x).chars with
      | .ok e => return e
      | .error e =>
        c.say ("regular expression compile failed (" ++ e ++ ")").toList
        Act.leave (.exited 2)

/-- Gives a value to a term. -/
def give (c : Invocation) : Nat → Term → Value → Run Unit
  | 0, _, _ => return ()
  | fuel + 1, x, v => do
    match x with
    | .variable name => modify fun m => m.setVariable name v
    | .element array index =>
      let k ← key c fuel index
      modify fun m => m.setArray array (insert k v (m.array array))
    | .field n =>
      let n := (← eval c fuel n).int.toNat
      modify fun m => m.setField n v
    | _ => return ()

end

/-- Writes to the output, or to the file of a path. -/
def write (c : Invocation) (path : Option Chars) (cs : Chars) : Run Unit := do
  match path.map String.ofList with
  | none | some "/dev/stdout" | some "-" => c.put cs 2
  | some "/dev/stderr" =>
    let _ ← Act.write 2 cs
  | some path =>
    let path := path.toList
    let target ← match (← get).targets.lookup path with
      | some d => pure d
      | none =>
        match ← openPath path { writes := true, creates := true, empties := true } with
        | .ok d =>
          modify fun m => { m with targets := (path, d) :: m.targets }
          pure d
        | .error _ =>
          c.say ("cannot open \"".toList ++ path ++ "\" for output".toList)
          Act.leave (.exited 2)
    let _ ← Act.write target cs

mutual

/-- Carries out a statement, in at most `fuel` steps. -/
def exec (c : Invocation) : Nat → Statement → Run Flow
  | 0, _ => return .exit 2
  | fuel + 1, s => do
    match s with
    | .print isFormat xs target =>
      let vs ← xs.mapM (eval c fuel)
      let path ← target.mapM fun x => return (← eval c fuel x).chars
      let m ← get
      let text := if isFormat then
          let format := (vs.headD .unset).chars
          formatted (format.length + 1) format vs.tail
        else (if vs.isEmpty then m.record
          else (m.textOf "OFS").intercalate (vs.map Value.chars)) ++ m.textOf "ORS"
      write c path text
      return .on
    | .term x =>
      let _ ← eval c fuel x
      return .on
    | .block [] => return .on
    | .block (s :: ss) =>
      match ← exec c fuel s with
      | .on => exec c fuel (.block ss)
      | flow => return flow
    | .if_ x yes no => exec c fuel (if (← eval c fuel x).isTrue then yes else no)
    | .while_ isLate x body after =>
      if !isLate && !(← eval c fuel x).isTrue then return .on
      match ← exec c fuel body with
      | .break_ => return .on
      | .on | .continue_ =>
        let _ ← exec c fuel after
        exec c fuel (.while_ false x body after)
      | flow => return flow
    | .forEach name array body =>
      execEach c fuel name body ((← get).keys array)
    | .delete array [] =>
      modify fun m => m.setArray array []
      return .on
    | .delete array index =>
      let k ← key c fuel index
      modify fun m => m.setArray array ((m.array array).filter fun e => e.1 != k)
      return .on
    | .next => return .next
    | .exit status =>
      return .exit (← status.elim (pure 0) fun x => return (← eval c fuel x).int.toNat % 256)
    | .break_ => return .break_
    | .continue_ => return .continue_

/-- Carries out a statement for each of the keys that an array had at first. -/
def execEach (c : Invocation) : Nat → String → Statement → List Chars → Run Flow
  | 0, _, _, _ | _, _, _, [] => return .on
  | fuel + 1, name, body, k :: keys => do
    modify fun m => m.setVariable name (.input k)
    match ← exec c fuel body with
    | .break_ => return .on
    | .on | .continue_ => execEach c fuel name body keys
    | flow => return flow

end

/-- The most steps of one statement of a rule. -/
def stepLimit : Nat := 1000000000

/-- Whether the pattern of a rule holds for the record at hand. -/
def holds (c : Invocation) (n : Nat) : Pattern → Run Bool
  | .begin_ | .end_ => return false
  | .always => return true
  | .holds x => return (← eval c stepLimit x).isTrue
  | .range x y => do
    if !(← get).ranges.contains n && !(← eval c stepLimit x).isTrue then return false
    let isOver := (← eval c stepLimit y).isTrue
    modify fun m => { m with ranges := m.ranges.filter (· != n) ++ if isOver then [] else [n] }
    return true

/-- Carries out the rules that are meant, up to one that goes on elsewhere. -/
def runRules (c : Invocation) (isMeant : Nat → Pattern → Run Bool) :
    List ((Pattern × Statement) × Nat) → Run Flow
  | [] => return .on
  | ((pattern, body), n) :: rest => do
    if !(← isMeant n pattern) then runRules c isMeant rest
    else match ← exec c stepLimit body with
      | .exit status => return .exit status
      | .next => return .next
      | _ => runRules c isMeant rest

/-- Goes through the records of a source, in at most `fuel` records. -/
def throughRecords (c : Invocation) (script : Script) : Nat → Source → Run Flow
  | 0, _ => return .on
  | fuel + 1, source => do
    match ← source.line with
    | .ok (some line, source) =>
      modify fun m =>
        let more (name : String) (m : Memory) : Memory := m.setVariable name
          (.number (((m.values.lookup name).getD .unset).float + 1.0))
        (more "NR" (more "FNR" m)).withRecord (Chars.body line)
      match ← runRules c (holds c) script.zipIdx with
      | .exit status => return .exit status
      | _ => throughRecords c script fuel source
    | _ => return .on

/-- A word in which escapes are read. -/
def unescaped (word : Chars) : Chars := ((upTo '"' (word ++ ['"'])).map Prod.fst).getD word

/-- The variable to which a word gives a value, and the value. -/
def assigned? (word : Chars) : Option (String × Value) :=
  let (name, rest) := word.span (· != '=')
  if name.head?.any (fun c => c.isAlpha || c == '_') &&
      name.all (fun c => c.isAlphanum || c == '_') && !rest.isEmpty then
    some (String.ofList name, .input (unescaped rest.tail))
  else none

/-- Goes through the words behind a script: files, and values for variables. -/
def throughFiles (c : Invocation) (script : Script) : List Chars → Nat → Run Flow
  | [], status => return if status = 0 then .on else .exit status
  | word :: words, status => do
    match assigned? word with
    | some (name, v) =>
      modify fun m => m.setVariable name v
      throughFiles c script words status
    | none =>
      modify fun m => (m.setVariable "FNR" (.number 0.0)).setVariable "FILENAME"
        (.text (if word = ['-'] then [] else word))
      match ← (if word = ['-'] then pure (.ok 0) else openPath word { reads := true }) with
      | .error e =>
        c.say ("cannot open ".toList ++ word ++ " (".toList ++ e.text.toList ++ [')'])
        throughFiles c script words 2
      | .ok d =>
        match ← throughRecords c script stepLimit { descriptor := d } with
        | .exit status => return .exit status
        | _ => throughFiles c script words status

/-- Runs a script from its first rules to its last ones, and gives the exit code. -/
def run (c : Invocation) (script : Script) (words : List Chars) : Run Nat := do
  let isBegin (_ : Nat) (p : Pattern) : Run Bool := return match p with
    | .begin_ => true
    | _ => false
  let isEnd (_ : Nat) (p : Pattern) : Run Bool := return match p with
    | .end_ => true
    | _ => false
  let rules := script.zipIdx
  let onlyBegins := script.all fun (p, _) => match p with
    | .begin_ => true
    | _ => false
  let words := if words.all fun w => (assigned? w).isSome then words ++ [['-']] else words
  let flow ← match ← runRules c isBegin rules with
    | .exit status => pure (.exit status)
    | _ => if onlyBegins then pure .on else throughFiles c script words 0
  let first := match flow with
    | .exit status => status
    | _ => 0
  match ← runRules c isEnd rules with
  | .exit status => return status
  | _ => return first

end Records

/-- Goes through records by a script. -/
def awk : Program := fun c => do
  match Options.read { valued := "Fvf", inFront := true } c.words {} with
  | .error e => c.fail e 2
  | .ok p =>
    let mut texts := []
    for path in p.values 'f' do
      match ← readPath path with
      | .ok cs => texts := texts ++ [cs]
      | .error _ =>
        c.say ("couldn't open file ".toList ++ path)
        Act.leave (.exited 2)
    let text := if p.has 'f' then ['\n'].intercalate texts else p.operands.headD []
    match Records.read text with
    | .error e => c.fail ("line 1: " ++ e).toList 2
    | .ok script =>
      let give (m : Records.Memory) (name : String) (cs : Chars) : Records.Memory :=
        { m with values := Records.insert name (.text cs) m.values }
      let separator := Records.unescaped (p.valueOr 'F' [' '])
      let m := [("FS", if separator = ['t'] then ['\t'] else separator), ("OFS", [' ']),
        ("ORS", ['\n']), ("SUBSEP", [Char.ofNat 0x1C])].foldl (fun m (k, v) => give m k v) {}
      let m := ((p.values 'v').filterMap Records.assigned?).foldl (fun m (name, v) =>
        m.setVariable name v) m
      let m := m.setArray "ENVIRON"
        (c.environment.map fun (name, value) => (name, Records.Value.input value))
      return (← (Records.run c script (if p.has 'f' then p.operands else p.operands.drop 1)).run
        m).1

end SchemaCheck.Testing.Tools
