/-!
# Reading TOML

The statements of a TOML document, as far as a configuration can use them: values are texts, arrays
and tables. A number, a date or a truth value fits nowhere in a configuration, so a document with
one is refused like one that is malformed. Every function takes the characters that are left and
gives those that are left after it.
-/

namespace SchemaCheck.Toml

/-- A value. The entries of a table have dotted keys. -/
inductive Value where
  | text (content : String)
  | array (items : List Value)
  | table (entries : List (List String × Value))
  deriving Repr

/-- A statement of a document. -/
inductive Statement where
  /-- The header of a table, for the assignments that follow. -/
  | header (path : List String)
  | assign (path : List String) (value : Value)
  deriving Repr

/-- The rest after white space inside a line. -/
def skipBlank (s : List Char) : List Char := s.dropWhile fun c => c == ' ' || c == '\t'

/-- The rest after the end of a line. -/
def newline? : List Char → Option (List Char)
  | '\n' :: s => some s
  | '\r' :: '\n' :: s => some s
  | _ => none

/-- Whether a character may stand in a comment. -/
def isPlain (c : Char) : Bool := c == '\t' || (' ' ≤ c && c ≤ '~') || 0x80 ≤ c.toNat

/-- The rest after a comment, if one comes next. -/
def skipComment : List Char → List Char
  | '#' :: s => s.dropWhile isPlain
  | s => s

/-- The rest after white space, comments and ends of lines, in at most `fuel` lines. -/
def skipLines : Nat → List Char → List Char
  | 0, s => s
  | fuel + 1, s =>
    let s := skipComment (skipBlank s)
    match newline? s with
    | some s => skipLines fuel s
    | none => s

/-- The rest after white space that may go over lines. -/
def skipSpace (s : List Char) : List Char := skipLines (s.length + 1) s

/-- The value of a hexadecimal digit. -/
def hexValue (c : Char) : Option Nat :=
  if '0' ≤ c && c ≤ '9' then some (c.toNat - 0x30)
  else if 'a' ≤ c && c ≤ 'f' then some (c.toNat - 0x61 + 10)
  else if 'A' ≤ c && c ≤ 'F' then some (c.toNat - 0x41 + 10)
  else none

/-- The number that a fixed count of hexadecimal digits write, after the number `n`. -/
def hexDigits (n : Nat) : Nat → List Char → Option (Nat × List Char)
  | 0, s => some (n, s)
  | _ + 1, [] => none
  | count + 1, c :: s => do
    let d ← hexValue c
    hexDigits (n * 16 + d) count s

/-- The character whose code a fixed count of hexadecimal digits write. -/
def codePoint (count : Nat) (s : List Char) : Option (Char × List Char) := do
  let (n, s) ← hexDigits 0 count s
  if n.isValidChar then some (Char.ofNat n, s) else none

/-- What follows the backslash of an escape. -/
def escape : List Char → Option (Char × List Char)
  | 'b' :: s => some (Char.ofNat 0x08, s)
  | 't' :: s => some ('\t', s)
  | 'n' :: s => some ('\n', s)
  | 'f' :: s => some (Char.ofNat 0x0C, s)
  | 'r' :: s => some ('\r', s)
  | 'e' :: s => some (Char.ofNat 0x1B, s)
  | '"' :: s => some ('"', s)
  | '\\' :: s => some ('\\', s)
  | 'x' :: s => codePoint 2 s
  | 'u' :: s => codePoint 4 s
  | 'U' :: s => codePoint 8 s
  | _ => none

/-- The single quote, which marks a literal text. -/
def apostrophe : Char := Char.ofNat 0x27

/-- The rest of a text on one line, up to its closing quote, in at most `fuel` steps. Between single
quotes nothing is escaped. -/
def lineText (quote : Char) : Nat → List Char → Option (List Char × List Char)
  | 0, _ => none
  | _ + 1, [] => none
  | fuel + 1, c :: s =>
    if c == quote then some ([], s)
    else if c == '\\' && quote == '"' then do
      let (d, s) ← escape s
      let (cs, s) ← lineText quote fuel s
      some (d :: cs, s)
    else if isPlain c then do
      let (cs, s) ← lineText quote fuel s
      some (c :: cs, s)
    else none

/-- The rest after a backslash that ends its line, with all white space that follows. -/
def joinLines? (s : List Char) : Option (List Char) :=
  match newline? (skipBlank s) with
  | some s => some (skip (s.length + 1) s)
  | none => none
where
  /-- The rest after white space and ends of lines. -/
  skip : Nat → List Char → List Char
    | 0, s => s
    | fuel + 1, s =>
      let s := skipBlank s
      match newline? s with
      | some s => skip fuel s
      | none => s

/-- The rest of a text over several lines, up to its three closing quotes, in at most `fuel` steps.
One or two quotes more may come right before those that close it. -/
def blockText (quote : Char) : Nat → List Char → Option (List Char × List Char)
  | 0, _ => none
  | _ + 1, [] => none
  | fuel + 1, c :: s =>
    if c == quote then
      let more := s.takeWhile (· == quote)
      if more.length < 2 then do
        let (cs, s) ← blockText quote fuel s
        some (c :: cs, s)
      else
        let extra := min (more.length - 2) 2
        some (List.replicate extra quote, s.drop (2 + extra))
    else if c == '\\' && quote == '"' then
      match joinLines? s with
      | some s => blockText quote fuel s
      | none => do
        let (d, s) ← escape s
        let (cs, s) ← blockText quote fuel s
        some (d :: cs, s)
    else if isPlain c || c == '\n' || (c == '\r' && s.head? == some '\n') then do
      let (cs, s) ← blockText quote fuel s
      some (c :: cs, s)
    else none

/-- A text, from its first quote on. -/
def text? (s : List Char) : Option (String × List Char) := do
  let (cs, s) ← match s with
    | a :: b :: c :: rest =>
      if (a == '"' || a == apostrophe) && b == a && c == a then
        blockText a (rest.length + 1) ((newline? rest).getD rest)
      else if a == '"' || a == apostrophe then
        lineText a (s.length + 1) (b :: c :: rest)
      else none
    | a :: rest =>
      if a == '"' || a == apostrophe then lineText a (s.length + 1) rest else none
    | [] => none
  some (String.ofList cs, s)

/-- Whether a character may stand in a key without quotes. -/
def isBare (c : Char) : Bool := c.isAlphanum || c == '_' || c == '-'

/-- One part of a key: bare, or a text on one line. -/
def keyPart? (s : List Char) : Option (String × List Char) :=
  match s with
  | a :: rest =>
    if a == '"' || a == apostrophe then do
      let (cs, s) ← lineText a (s.length + 1) rest
      some (String.ofList cs, s)
    else
      match s.span isBare with
      | ([], _) => none
      | (cs, s) => some (String.ofList cs, s)
  | [] => none

/-- A key of parts with dots between them, in at most `fuel` parts. -/
def keyParts? : Nat → List Char → Option (List String × List Char)
  | 0, _ => none
  | fuel + 1, s => do
    let (k, s) ← keyPart? s
    match skipBlank s with
    | '.' :: s => do
      let (ks, s) ← keyParts? fuel (skipBlank s)
      some (k :: ks, s)
    | s => some ([k], s)

/-- A key. -/
def key? (s : List Char) : Option (List String × List Char) := keyParts? (s.length + 1) s

mutual

/-- A value, read in at most `fuel` steps. -/
def value? : Nat → List Char → Option (Value × List Char)
  | 0, _ => none
  | fuel + 1, '[' :: s => (items? fuel (skipSpace s)).map fun (vs, s) => (.array vs, s)
  | fuel + 1, '{' :: s => (entries? fuel (skipSpace s)).map fun (es, s) => (.table es, s)
  | _ + 1, s => (text? s).map fun (t, s) => (.text t, s)

/-- The items of an array up to the bracket that closes it. -/
def items? : Nat → List Char → Option (List Value × List Char)
  | 0, _ => none
  | _ + 1, ']' :: s => some ([], s)
  | fuel + 1, s => do
    let (v, s) ← value? fuel s
    match skipSpace s with
    | ',' :: s =>
      let (vs, s) ← items? fuel (skipSpace s)
      some (v :: vs, s)
    | ']' :: s => some ([v], s)
    | _ => none

/-- The entries of a table up to the brace that closes it. Lines may end anywhere but inside a key
or a text. -/
def entries? : Nat → List Char → Option (List (List String × Value) × List Char)
  | 0, _ => none
  | _ + 1, '}' :: s => some ([], s)
  | fuel + 1, s => do
    let (k, s) ← key? s
    match skipSpace s with
    | '=' :: s =>
      let (v, s) ← value? fuel (skipSpace s)
      match skipSpace s with
      | ',' :: s =>
        let (es, s) ← entries? fuel (skipSpace s)
        some ((k, v) :: es, s)
      | '}' :: s => some ([(k, v)], s)
      | _ => none
    | _ => none

end

/-- A statement, from its first character on. The header of an array of tables is refused: no
configuration has one. -/
def statement? (s : List Char) : Option (Statement × List Char) :=
  match s with
  | '[' :: s => do
    let (k, s) ← key? (skipBlank s)
    match skipBlank s with
    | ']' :: s => some (.header k, s)
    | _ => none
  | s => do
    let (k, s) ← key? s
    match skipBlank s with
    | '=' :: s =>
      let (v, s) ← value? (2 * s.length + 2) (skipBlank s)
      some (.assign k v, s)
    | _ => none

/-- The statements of a document, one on a line, in at most `fuel` lines. -/
def statements? : Nat → List Char → Option (List Statement)
  | 0, _ => none
  | fuel + 1, s => do
    match skipSpace s with
    | [] => some []
    | s =>
      let (statement, s) ← statement? s
      let s := skipComment (skipBlank s)
      if s.isEmpty then some [statement]
      else
        let s ← newline? s
        let rest ← statements? fuel s
        some (statement :: rest)

/-- The statements of a document. A byte order mark may stand at its start. -/
def parse? (text : String) : Option (List Statement) :=
  let s := match text.toList with
    | c :: s => if c.toNat = 0xFEFF then s else c :: s
    | [] => []
  statements? (s.length + 1) s

end SchemaCheck.Toml
