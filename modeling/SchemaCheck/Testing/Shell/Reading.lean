import SchemaCheck.Testing.Shell.Script

/-!
# Reading shell scripts

From the characters of a script to its commands. A script is read command line by command line,
since what comes before a fault still runs. Words are read with everything in them, so that a script
within a word is read where it stands. Every function that recurs through a script takes the number
of steps it may still descend; one that a script cannot use up is computed from its length.
-/

namespace SchemaCheck.Testing.Shell

/-- A token of a script. -/
inductive Token where
  | word (w : Word)
  | redirect (descriptor : Option Nat) (operator : String)
  /-- A mark between words; a line end and the end of the script are marks too. -/
  | mark (text : String)
  /-- A word that means something where a command begins. -/
  | keyword (text : String)

/-- The mark at the end of a line. -/
def Token.lineEnd : Token := .mark "\n"

/-- The mark at the end of a script. -/
def Token.finish : Token := .mark ""

/-- The name of a token in a fault. -/
def Token.name : Token → String
  | .word _ => "word"
  | .redirect _ _ => "redirection"
  | .mark "" => "end of file"
  | .mark "\n" => "newline"
  | .mark text => "\"" ++ text ++ "\""
  | .keyword text => "\"" ++ text ++ "\""

/-- A fault in a script: the line it is noticed in, and what is wrong. -/
structure Misreading where
  line : Nat
  text : String

/-- What may come next: a word, a command with its keywords, a command after assignments, or a
pattern or a keyword. -/
inductive Expected where
  | word
  | command
  | simple
  | pattern

/-- Whether words can be keywords. -/
def Expected.allowsKeywords : Expected → Bool
  | command | pattern => true
  | _ => false

/-- Whether words can be aliases. -/
def Expected.allowsAliases : Expected → Bool
  | command | simple => true
  | _ => false

/-- A document that is awaited: the line before which it ends, whether the tabs at the start of its
lines go, and whether the rest of it is taken as it stands. -/
structure Document where
  mark : Chars
  stripsTabs : Bool
  isQuoted : Bool

/-- What follows a document, if it ends here, at the start of a line. -/
def Document.after? (d : Document) (cs : Chars) : Option Chars :=
  if d.mark.isPrefixOf cs then
    match cs.drop d.mark.length with
    | [] => some []
    | c :: rest => if c == '\n' then some rest else none
  else none

/-- A document that is taken as it stands, and what follows it; `isStart` says whether this is the
start of a line. -/
def Document.text (d : Document) : Bool → Chars → Chars × Option Chars
  | _, [] => ([], none)
  | isStart, c :: cs =>
    if isStart && d.stripsTabs && c == '\t' then d.text true cs
    else match if isStart then d.after? (c :: cs) else none with
      | some rest => ([], some rest)
      | none =>
        let (text, after) := d.text (c == '\n') cs
        (c :: text, after)

/-- A script of which a part has been read. -/
structure Source where
  rest : Chars
  line : Nat := 1
  /-- The words that stand for others, with what they stand for. -/
  aliases : List (Chars × Chars) := []
  /-- The aliases that are being read, each with the length of what follows it. -/
  active : List (Chars × Nat) := []
  /-- The length of what follows an alias that lets the next word be one too. -/
  onward : Option Nat := none
  /-- A token that was read too early. -/
  ahead : Option Token := none
  /-- Whether the mark of a document is read, in which nothing is replaced. -/
  isMark : Bool := false
  /-- The documents that come after this line. -/
  awaited : List Document := []
  /-- The documents that have been read. -/
  documents : Array Word := #[]
  /-- The document that is read. -/
  document : Option Document := none
  /-- What follows the document that is read, once its end has been met. -/
  behind : Option Chars := none

/-- Reading a part of a script. -/
abbrev Read := StateT Source (Except Misreading)

namespace Read

/-- Gives up on the script. -/
def fail {α : Type} (text : String) : Read α := do
  throw ⟨(← get).line, text⟩

/-- Gives up on the script because of a token, with another one that could have stood there. -/
def unexpected {α : Type} (t : Token) (wanted : Option Token) : Read α :=
  fail (t.name ++ " unexpected" ++
    match wanted with
    | some w => " (expecting " ++ w.name ++ ")"
    | none => "")

/-- What follows line ends that a backslash takes away, and how many there are. -/
def joined : Chars → Chars × Nat
  | '\\' :: '\n' :: cs => ((joined cs).1, (joined cs).2 + 1)
  | cs => (cs, 0)

/-- The next character. -/
def peek : Read (Option Char) := do
  let s ← get
  let (rest, lines) := joined s.rest
  set { s with rest, line := s.line + lines }
  return rest.head?

/-- Goes over one character. -/
def advance : Read Unit :=
  modify fun s =>
    { s with
      rest := s.rest.tail, line := if s.rest.head? = some '\n' then s.line + 1 else s.line }

/-- Goes over a character if it comes next. -/
def accept (c : Char) : Read Bool := do
  if (← peek) = some c then
    advance
    return true
  else return false

/-- Goes over the characters of a class and gives them. -/
def takeWhile (p : Char → Bool) : Nat → Read Chars
  | 0 => return []
  | fuel + 1 => do
    match ← peek with
    | some c =>
      if p c then
        advance
        return c :: (← takeWhile p fuel)
      else return []
    | none => return []

/-- Goes over a number of characters that stand as they are. -/
def skip (count : Nat) : Read Unit :=
  modify fun s => { s with
    rest := s.rest.drop count, line := s.line + (s.rest.take count).countP (· == '\n') }

/-- Looks at the start of a line whether the document that is read ends here. -/
def meetLine : Read Unit := do
  if let some d := (← get).document then
    let _ ← peek
    modify fun s =>
      let rest := if d.stripsTabs then s.rest.dropWhile (· == '\t') else s.rest
      match d.after? rest with
      | some after => { s with rest := [], behind := some after, line := s.line + 1 }
      | none => { s with rest }

/-- Keeps a token for later. -/
def pushBack (t : Token) : Read Unit := modify fun s => { s with ahead := some t }

end Read

open Read

/-- The characters that end a word. -/
def endsWord (c : Char) : Bool :=
  isBlank c || ['\n', ';', '&', '|', '<', '>', '(', ')'].contains c

/-- The parameters that are no names. -/
def isSpecial (c : Char) : Bool := ['!', '#', '$', '*', '@', '?', '-'].contains c

/-- Where a run of parts ends. -/
inductive Border where
  /-- At a character that ends words. -/
  | word
  /-- At a double quote. -/
  | quote
  /-- At a brace. -/
  | brace
  /-- At two closing parentheses, with so many open ones before them. -/
  | parentheses (depth : Nat)
  /-- At the end of the characters. -/
  | document

/-- Whether a backslash between double quotes quotes a character. -/
def Border.quotes (b : Border) (c : Char) : Bool :=
  c == '\\' || c == backquote || c == '$' ||
    match b with
    | .brace => c == '"' || c == '}'
    | .document => false
    | _ => c == '"'

/-- The keywords. -/
def keywords : List String :=
  ["!", "case", "do", "done", "elif", "else", "esac", "fi", "for", "if", "in", "then", "until",
    "while", "\x7b", "\x7d"]

/-- The tokens that end a list of commands. -/
def Token.endsList : Token → Bool
  | .mark m => ["", ")", ";;"].contains m
  | .keyword k => ["do", "done", "elif", "else", "esac", "fi", "then", "\x7d"].contains k
  | _ => false

/-- A word as the keyword it may be. -/
def Token.asKeyword : Token → Token
  | .word w =>
    match w.plain? with
    | some cs =>
      let s := String.ofList cs
      if keywords.contains s then .keyword s else .word w
    | none => .word w
  | t => t

/-- Replaces a word by what it stands for, if it is an alias that may stand here and that is not
being read already. -/
def replaceAlias (e : Expected) (w : Word) : Read Bool := do
  let s ← get
  if s.aliases.isEmpty then return false
  let length := s.rest.length
  let isOnward := match s.onward with
    | some n => length < n
    | none => false
  if isOnward then modify fun s => { s with onward := none }
  match w.plain?.bind fun x => (s.aliases.lookup x).map fun text => (x, text) with
  | some (x, text) =>
    let isActive := s.active.any fun a => a.1 == x && a.2 ≤ length
    if (e.allowsAliases || isOnward) && !isActive then
      modify fun s => { s with
        rest := text ++ s.rest, active := (x, length) :: s.active
        onward := if (text.getLast?.map isBlank).getD false then some (length + 1) else none }
      return true
    else return false
  | none => return false

/-- The text that commands between backquotes are, where it begins, and what follows it. -/
def backquoted (inQuotes : Bool) : Chars → Option (Chars × Chars)
  | [] => none
  | c :: cs =>
    if c == backquote then some ([], cs)
    else if c == '\\' then
      match cs with
      | [] => none
      | d :: ds =>
        let bare := d == backquote || d == '\\' || d == '$' || (inQuotes && d == '"')
        (backquoted inQuotes ds).map fun (text, rest) =>
          ((if bare then [d] else [c, d]) ++ text, rest)
    else (backquoted inQuotes cs).map fun (text, rest) => (c :: text, rest)

/-- The characters of the mark of a document, and whether any of them is quoted. -/
def documentMark (w : Word) : Chars × Bool :=
  (w.flatMap fun
    | .plain cs | .quoted cs => cs
    | .expansion _ _ => [],
   w.any fun
    | .quoted _ => true
    | _ => false)

/-- The operator of a redirection, from its first character on. -/
def redirectOperator : Read String := do
  if ← accept '<' then
    if ← accept '<' then return if ← accept '-' then "<<-" else "<<"
    else if ← accept '&' then return "<&"
    else if ← accept '>' then return "<>"
    else return "<"
  else
    advance
    if ← accept '>' then return ">>"
    else if ← accept '&' then return ">&"
    else if ← accept '|' then return ">|"
    else return ">"

/-- Goes over blanks and a comment. -/
def skipBlanks : Read Unit := do
  let length := (← get).rest.length
  let _ ← takeWhile isBlank length
  if (← peek) = some '#' then
    let s ← get
    set { s with rest := s.rest.dropWhile (· != '\n') }

/-- A mark, if one comes next. -/
def mark? : Read (Option String) := do
  match ← peek with
  | none => return some ""
  | some '\n' => advance; return some "\n"
  | some '(' => advance; return some "("
  | some ')' => advance; return some ")"
  | some ';' => advance; return some (if ← accept ';' then ";;" else ";")
  | some '&' => advance; return some (if ← accept '&' then "&&" else "&")
  | some '|' => advance; return some (if ← accept '|' then "||" else "|")
  | _ => return none

/-- How a parameter is adjusted, after its name between braces: whether an empty value counts as
missing, and what becomes of the value. `none` is a form without meaning. -/
def adjustment? : Read (Option (Bool × Adjustment)) := do
  let orNull ← accept ':'
  if ← accept '-' then return some (orNull, .orElse)
  else if ← accept '=' then return some (orNull, .orAssign)
  else if ← accept '?' then return some (orNull, .orFail)
  else if ← accept '+' then return some (orNull, .instead)
  else if orNull then return none
  else if ← accept '%' then return some (false, .cut true (← accept '%'))
  else if ← accept '#' then return some (false, .cut false (← accept '#'))
  else return if (← peek) = some '}' then some (false, .keep) else none

/-- The name of a parameter between braces. -/
def bracedName : Read Chars := do
  let length := (← get).rest.length
  match ← peek with
  | some c =>
    if isNameStart c then takeWhile isNamePart length
    else if c.isDigit then takeWhile Char.isDigit length
    else if isSpecial c then
      advance
      return [c]
    else return []
  | none => return []

/-- Whether the length of a parameter is asked for: a `#` before a parameter and a brace. -/
def asksLength : Chars → Bool
  | '#' :: c :: cs =>
    if isNamePart c then true else isSpecial c && cs.head? = some '}'
  | _ => false

/-- Characters as a part that is quoted or not. -/
def literal (inQuotes : Bool) (cs : Chars) : Part := if inQuotes then .quoted cs else .plain cs

/-- Reads commands that have documents of their own. -/
def apart (r : Read (List Command)) : Read (List Command) := do
  let s ← get
  set { s with awaited := [], documents := #[], document := none }
  let commands ← r
  let t ← get
  set { t with awaited := s.awaited, documents := s.documents, document := s.document }
  return suppliedAll t.documents commands

/-- Reads the commands of a text, whose lines are counted on their own, and goes on where it was. -/
def within (text : Chars) (r : Read (List Command)) : Read (List Command) := do
  let s ← get
  set { s with rest := text, line := 1, ahead := none }
  let commands ← apart r
  set s
  return commands

mutual

/-- The parts of a word, a quote or a document up to its border. -/
def parts (inQuotes : Bool) (border : Border) : Nat → Read Word
  | 0 => fail "word too deep"
  | fuel + 1 => do
    match ← peek with
    | none =>
      match border with
      | .word | .document => return []
      | .quote =>
        fail (if (← get).behind.isSome then "Missing '\x7d'" else "Unterminated quoted string")
      | .brace => fail "Missing '\x7d'"
      | .parentheses _ => fail "Missing '))'"
    | some c =>
      let isMark := (← get).isMark
      if c == '$' && !isMark then
        advance
        let p ← dollar inQuotes fuel
        return p.cons (← parts inQuotes border fuel)
      else if c == backquote && !isMark then
        advance
        let s ← get
        match backquoted inQuotes s.rest with
        | none =>
          skip s.rest.length
          fail "EOF in backquote substitution"
        | some (text, rest) =>
          skip (s.rest.length - rest.length)
          let commands ← within text (list false true fuel)
          return .expansion inQuotes (.printed commands) :: (← parts inQuotes border fuel)
      else if c == '\\' then
        advance
        match (← get).rest.head? with
        | none => return (Part.quoted [c]).cons (← parts inQuotes border fuel)
        | some d =>
          advance
          let kept := if inQuotes && !border.quotes d then [c, d] else [d]
          return (Part.quoted kept).cons (← parts inQuotes border fuel)
      else if c == apostrophe && !inQuotes then
        advance
        let (text, rest) := (← get).rest.span (· != apostrophe)
        skip (text.length + 1)
        if rest.isEmpty then fail "Unterminated quoted string"
        return (Part.quoted text).cons (← parts inQuotes border fuel)
      else
        let more (p : Part) : Read Word := do
          advance
          if c == '\n' then meetLine
          return p.cons (← parts inQuotes border fuel)
        match border, c with
        | .quote, '"' =>
          advance
          return []
        | .document, '"' | .parentheses _, '"' => more (.quoted [c])
        | _, '"' =>
          advance
          let w ← parts true .quote fuel
          return (if w.isEmpty then [.quoted []] else w) ++ (← parts inQuotes border fuel)
        | .brace, '}' =>
          advance
          return []
        | .parentheses n, '(' =>
          advance
          return (literal inQuotes [c]).cons (← parts inQuotes (.parentheses (n + 1)) fuel)
        | .parentheses 0, ')' =>
          advance
          if ← accept ')' then return []
          else return (literal inQuotes [c]).cons (← parts inQuotes border fuel)
        | .parentheses (n + 1), ')' =>
          advance
          return (literal inQuotes [c]).cons (← parts inQuotes (.parentheses n) fuel)
        | .word, c => if endsWord c then return [] else more (.plain [c])
        | _, c => more (literal inQuotes [c])

/-- What follows a dollar sign. -/
def dollar (inQuotes : Bool) : Nat → Read Part
  | 0 => fail "word too deep"
  | fuel + 1 => do
    match ← peek with
    | some '(' =>
      advance
      if ← accept '(' then
        return .expansion inQuotes (.arithmetic (← parts true (.parentheses 0) fuel))
      let commands ← apart do
        let commands ← list false true fuel
        match ← next .word false fuel with
        | .mark ")" => return commands
        | t => unexpected t (some (.mark ")"))
      return .expansion inQuotes (.printed commands)
    | some '{' =>
      advance
      let _ ← peek
      if asksLength (← get).rest then
        advance
        let name ← bracedName
        if ← accept '}' then return .expansion inQuotes (.length name)
        let _ ← parts inQuotes .brace fuel
        return .expansion inQuotes .malformed
      let name ← bracedName
      let adjustment ← if name.isEmpty then pure none else adjustment?
      match adjustment with
      | some (orNull, a) =>
        let plainWord := match a with
          | .cut _ _ => true
          | _ => false
        let w ← parts (inQuotes && !plainWord) .brace fuel
        return .expansion inQuotes (.parameter name orNull a w)
      | none =>
        unless name.isEmpty && (← peek) = some '}' do
          modify fun s => { s with rest := s.rest.tail }
        let _ ← parts inQuotes .brace fuel
        return .expansion inQuotes .malformed
    | some c =>
      if isNameStart c then
        let name ← takeWhile isNamePart (← get).rest.length
        return .expansion inQuotes (.parameter name false .keep [])
      else if c.isDigit || isSpecial c then
        advance
        return .expansion inQuotes (.parameter [c] false .keep [])
      else return literal inQuotes ['$']
    | none => return literal inQuotes ['$']

/-- The next token. Where a command need not begin on this line, line `ends` are gone over. A word
that is an alias is replaced by what it stands for. -/
def next (e : Expected) (ends : Bool) : Nat → Read Token
  | 0 => fail "script too deep"
  | fuel + 1 => do
    let t ← match (← get).ahead with
      | some t =>
        modify fun s => { s with ahead := none }
        pure t
      | none => token fuel
    match t with
    | .mark "\n" =>
      if ends then
        documents fuel
        next e ends fuel
      else return t
    | t =>
      let t := if e.allowsKeywords then t.asKeyword else t
      match t with
      | .word w =>
        if ← replaceAlias e w then next e ends fuel else return t
      | t => return t

/-- A token from the characters. -/
def token : Nat → Read Token
  | 0 => fail "script too deep"
  | fuel + 1 => do
    skipBlanks
    match ← mark? with
    | some m => return .mark m
    | none =>
      let w ← parts false .word fuel
      let angle ← peek
      if angle = some '<' || angle = some '>' then
        match w.plain? with
        | some [d] =>
          if d.isDigit then return .redirect (some (d.toNat - 0x30)) (← redirectOperator)
          else return .word w
        | _ => if w.isEmpty then return .redirect none (← redirectOperator) else return .word w
      else return .word w

/-- The documents that are awaited, at the line on which they begin. -/
def documents : Nat → Read Unit
  | 0 => fail "script too deep"
  | fuel + 1 => do
    let s ← get
    match s.awaited with
    | [] => return ()
    | d :: awaited =>
      if d.isQuoted then
        let (text, after) := d.text true s.rest
        let lines := text.countP (· == '\n') + if after.isSome then 1 else 0
        set { s with
          awaited, rest := after.getD [], line := s.line + lines
          documents := s.documents.push [.quoted text] }
      else
        set { s with awaited, document := some d }
        meetLine
        let w ← parts true .document fuel
        modify fun s => { s with
          rest := s.behind.getD [], document := none, behind := none
          documents := s.documents.push w }
      documents fuel

/-- The redirection that an operator begins. -/
def redirection (descriptor : Option Nat) (operator : String) : Nat → Read Redirection
  | 0 => fail "script too deep"
  | fuel + 1 => do
    let isDocument := operator = "<<" || operator = "<<-"
    modify fun s => { s with isMark := isDocument }
    let t ← next .word false fuel
    modify fun s => { s with isMark := false }
    match t with
    | .word w =>
      let leading (standard : Nat) (d : Direction) : Redirection :=
        .mk (descriptor.getD standard) d w
      match operator with
      | "<" => return leading 0 .input
      | "<>" => return leading 0 .both
      | ">|" => return leading 1 .force
      | ">>" => return leading 1 .append
      | "<&" => return leading 0 .same
      | ">&" => return leading 1 .same
      | "<<" | "<<-" =>
        let (mark, isQuoted) := documentMark w
        let s ← get
        let d : Document := { mark, stripsTabs := operator = "<<-", isQuoted }
        set { s with awaited := s.awaited ++ [d] }
        return .awaited (descriptor.getD 0) (s.documents.size + s.awaited.length)
      | _ => return leading 1 .output
    | t => unexpected t none

/-- Redirections, as many as come next. -/
def redirections : Nat → Read (List Redirection)
  | 0 => fail "script too deep"
  | fuel + 1 => do
    match ← next .command false fuel with
    | .redirect d operator =>
      let r ← redirection d operator fuel
      return r :: (← redirections fuel)
    | t =>
      pushBack t
      return []

/-- Commands one after another. On the `top` they end with the line. Elsewhere they end before a
token that ends lists, which may come at once if the list `mayBeEmpty`. -/
def list (top mayBeEmpty : Bool) : Nat → Read (List Command)
  | 0 => fail "script too deep"
  | fuel + 1 => do
    match ← next .command (!top) fuel with
    | .mark "\n" =>
      documents fuel
      return []
    | .mark "" =>
      pushBack .finish
      return []
    | t =>
      pushBack t
      if mayBeEmpty && !top && t.endsList then return []
      let c ← andOr fuel
      match ← next .word false fuel with
      | .mark "&" => return .background c :: (← list top true fuel)
      | .mark ";" => return c :: (← list top true fuel)
      | .mark "\n" =>
        documents fuel
        pushBack .lineEnd
        return c :: (← list top true fuel)
      | .mark "" =>
        pushBack .finish
        return [c]
      | t =>
        if top then unexpected t none
        pushBack t
        return [c]

/-- Pipelines of which the later ones depend on how the earlier ones end. -/
def andOr : Nat → Read Command
  | 0 => fail "script too deep"
  | fuel + 1 => do andOrAfter (← pipeline fuel) fuel

/-- What may follow a pipeline, with the pipeline. -/
def andOrAfter (c : Command) : Nat → Read Command
  | 0 => fail "script too deep"
  | fuel + 1 => do
    match ← next .word false fuel with
    | .mark "&&" =>
      pushBack (← next .command true fuel)
      andOrAfter (.both c (← pipeline fuel)) fuel
    | .mark "||" =>
      pushBack (← next .command true fuel)
      andOrAfter (.either c (← pipeline fuel)) fuel
    | t =>
      pushBack t
      return c

/-- Commands with bars between them, or their opposite. -/
def pipeline : Nat → Read Command
  | 0 => fail "script too deep"
  | fuel + 1 => do
    match ← next .command false fuel with
    | .keyword "!" => return .negated (← barred fuel)
    | t =>
      pushBack t
      barred fuel

/-- Commands with bars between them. -/
def barred : Nat → Read Command
  | 0 => fail "script too deep"
  | fuel + 1 => do
    let c ← command fuel
    match ← next .word false fuel with
    | .mark "|" =>
      pushBack (← next .command true fuel)
      match ← barred fuel with
      | .pipeline cs => return .pipeline (c :: cs)
      | d => return .pipeline [c, d]
    | t =>
      pushBack t
      return c

/-- Goes over a keyword that has to come next. -/
def demand (wanted : Token) : Nat → Read Unit
  | 0 => fail "script too deep"
  | fuel + 1 => do
    let t ← next .command false fuel
    match t, wanted with
    | .keyword k, .keyword l => if k = l then return () else unexpected t (some wanted)
    | .mark m, .mark n => if m = n then return () else unexpected t (some wanted)
    | _, _ => unexpected t (some wanted)

/-- A command. -/
def command : Nat → Read Command
  | 0 => fail "script too deep"
  | fuel + 1 => do
    let t ← next .command false fuel
    let line := (← get).line
    let closed (c : Command) (wanted : Token) : Read Command := do
      demand wanted fuel
      match ← redirections fuel with
      | [] => return c
      | rs => return .redirected line c rs
    match t with
    | .keyword "if" => closed (← branches fuel) (.keyword "fi")
    | .keyword "while" | .keyword "until" =>
      let condition ← list false false fuel
      demand (.keyword "do") fuel
      let body ← list false false fuel
      let outcome := match t with
        | .keyword k => k == "while"
        | _ => true
      closed (.loop outcome condition body) (.keyword "done")
    | .keyword "for" =>
      let some name := (match ← next .word false fuel with
        | .word w => w.plain?.filter isName
        | _ => none) | fail "Bad for loop variable"
      let words ← eachWords fuel
      pushBack (← next .command true fuel)
      demand (.keyword "do") fuel
      let body ← list false false fuel
      closed (.each line name words body) (.keyword "done")
    | .keyword "case" =>
      match ← next .word false fuel with
      | .word w =>
        pushBack (← next .command true fuel)
        demand (.keyword "in") fuel
        closed (.choose line w (← choices fuel)) (.keyword "esac")
      | t => unexpected t (some (.word []))
    | .mark "(" => closed (.subshell (← list false false fuel)) (.mark ")")
    | .keyword "\x7b" => closed (.block (← list false false fuel)) (.keyword "\x7d")
    | .word _ | .redirect _ _ =>
      pushBack t
      simple line [] [] [] fuel
    | t => unexpected t none

/-- The words that a loop goes over, if it says which. -/
def eachWords : Nat → Read (Option (List Word))
  | 0 => fail "script too deep"
  | fuel + 1 => do
    match ← next .command true fuel with
    | .keyword "in" => return some (← wordsToEnd fuel)
    | .mark ";" => return none
    | t =>
      pushBack t
      return none

/-- Words up to the end of a line or a semicolon. -/
def wordsToEnd : Nat → Read (List Word)
  | 0 => fail "script too deep"
  | fuel + 1 => do
    match ← next .word false fuel with
    | .word w => return w :: (← wordsToEnd fuel)
    | .mark ";" | .mark "\n" => return []
    | t => unexpected t none

/-- What follows the first word of a choice between two lists of commands. -/
def branches : Nat → Read Command
  | 0 => fail "script too deep"
  | fuel + 1 => do
    let condition ← list false false fuel
    demand (.keyword "then") fuel
    let yes ← list false false fuel
    match ← next .command false fuel with
    | .keyword "elif" => return .branch condition yes [← branches fuel]
    | .keyword "else" => return .branch condition yes (← list false false fuel)
    | t =>
      pushBack t
      return .branch condition yes []

/-- The branches of a choice by pattern, up to the word that ends them. -/
def choices : Nat → Read (List (List Word × List Command))
  | 0 => fail "script too deep"
  | fuel + 1 => do
    match ← next .pattern true fuel with
    | .keyword "esac" =>
      pushBack (.keyword "esac")
      return []
    | t =>
      let t ← match t with
        | .mark "(" => next .word false fuel
        | t => pure t
      let patterns ← patternsAfter t fuel
      let body ← list false true fuel
      match ← next .command true fuel with
      | .mark ";;" => return (patterns, body) :: (← choices fuel)
      | .keyword "esac" =>
        pushBack (.keyword "esac")
        return [(patterns, body)]
      | t => unexpected t (some (.mark ";;"))

/-- The patterns of a branch, of which the first is read already. -/
def patternsAfter (t : Token) : Nat → Read (List Word)
  | 0 => fail "script too deep"
  | fuel + 1 => do
    let w : Word := match t with
      | .word w => w
      | .keyword k => [.plain k.toList]
      | _ => []
    match ← next .word false fuel with
    | .mark "|" => return w :: (← patternsAfter (← next .word false fuel) fuel)
    | .mark ")" => return [w]
    | t => unexpected t (some (.mark ")"))

/-- A simple command, of which some assignments, words and redirections are read already. -/
def simple (line : Nat) (assigned : List (Chars × Word)) (words : List Word)
    (redirected : List Redirection) : Nat → Read Command
  | 0 => fail "script too deep"
  | fuel + 1 => do
    match ← next (if words.isEmpty then .simple else .word) false fuel with
    | .word w =>
      match (if words.isEmpty then w.assignment? else none) with
      | some a => simple line (assigned ++ [a]) words redirected fuel
      | none => simple line assigned (words ++ [w]) redirected fuel
    | .redirect d operator =>
      simple line assigned words (redirected ++ [← redirection d operator fuel]) fuel
    | t =>
      match t, words, assigned, redirected with
      | .mark "(", [w], [], [] =>
        demandClosing fuel
        match w.plain?.filter fun n => isName n && !isSpecialCommand n with
        | some name =>
          pushBack (← next .command true fuel)
          return .define name (← command fuel)
        | none => fail "Bad function name"
      | _, _, _, _ =>
        pushBack t
        return .simple line assigned words redirected

/-- Goes over the parenthesis that closes. -/
def demandClosing : Nat → Read Unit
  | 0 => fail "script too deep"
  | fuel + 1 => do
    match ← next .word false fuel with
    | .mark ")" => return ()
    | t => unexpected t (some (.mark ")"))

end

/-- How many steps more reading may descend on account of aliases. -/
def aliasDepth : Nat := 20000

/-- The commands of the first lines of a script that make a whole, and what follows them; at the end
of the script there is none. Reading descends a few steps at most for each character. -/
def readLine (s : Source) : Except Misreading (Option (List Command × Source)) :=
  if s.rest.isEmpty then .ok none
  else (fun (commands, s) => some (commands, { s with ahead := none })) <$>
    (apart (list true false (16 * (s.rest.length + 4) + aliasDepth))).run s

/-- The word that a text is between double quotes, if it can be read. -/
def readText (cs : Chars) : Option Word :=
  ((parts true .document (16 * (cs.length + 4))).run { rest := cs }).toOption.map Prod.fst

end SchemaCheck.Testing.Shell
