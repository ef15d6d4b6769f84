import SchemaCheck.Testing.Host.Chars

/-!
# Shell scripts

What a shell script is once it is read: commands made of words, and words made of parts that are
taken as they stand or that are replaced when the command runs.
-/

namespace SchemaCheck.Testing.Shell

/-- What becomes of the value of a parameter. -/
inductive Adjustment where
  | keep
  /-- A word stands in for a missing value. -/
  | orElse
  /-- A word stands in for a missing value and is assigned. -/
  | orAssign
  /-- A missing value is an error, with a word as its text. -/
  | orFail
  /-- A word stands in for a value that is there. -/
  | instead
  /-- The part that a pattern matches is cut off, at the end or at the start. -/
  | cut (atEnd longest : Bool)
  deriving DecidableEq

/-- The sides of a redirection. -/
inductive Direction where
  | input
  | output
  /-- Output to a file that may be there already, whatever the options say. -/
  | force
  /-- Output behind what a file holds. -/
  | append
  /-- Input and output. -/
  | both
  /-- The same way as another descriptor. -/
  | same
  /-- Input from the script itself. -/
  | document
  deriving DecidableEq

mutual

/-- A part of a word. -/
inductive Part where
  /-- Characters without quotes, which may mean something in a pattern. -/
  | plain (cs : Chars)
  /-- Characters that stand for themselves. -/
  | quoted (cs : Chars)
  /-- What is replaced when the command runs; between double quotes its value is not split. -/
  | expansion (inQuotes : Bool) (e : Expansion)

/-- What a part of a word is replaced by. -/
inductive Expansion where
  /-- The value of a parameter. With `orNull` an empty value counts as missing. -/
  | parameter (name : Chars) (orNull : Bool) (adjustment : Adjustment) (word : List Part)
  /-- The length of the value of a parameter. -/
  | length (name : Chars)
  /-- What commands print. -/
  | printed (script : List Command)
  | arithmetic (word : List Part)
  /-- A form that has no meaning. -/
  | malformed

/-- A redirection of a descriptor. -/
inductive Redirection where
  | mk (descriptor : Nat) (direction : Direction) (target : List Part)
  /-- Input from a document that comes on later lines, by its number among those of the script. -/
  | awaited (descriptor number : Nat)

/-- A command. -/
inductive Command where
  /-- Assignments, the words of a command and its redirections. -/
  | simple (line : Nat) (assignments : List (Chars × List Part)) (words : List (List Part))
      (redirections : List Redirection)
  /-- Commands, each of which reads what the one before it prints. -/
  | pipeline (commands : List Command)
  | negated (c : Command)
  /-- The second command runs if the first succeeds. -/
  | both (c d : Command)
  /-- The second command runs if the first fails. -/
  | either (c d : Command)
  /-- A command that nothing waits for. -/
  | background (c : Command)
  | block (commands : List Command)
  /-- Commands that cannot change the shell they run in. -/
  | subshell (commands : List Command)
  | branch (condition yes no : List Command)
  /-- The body is repeated as long as the condition has the given outcome. -/
  | loop (outcome : Bool) (condition body : List Command)
  /-- The body runs once for each word, or for each argument of the script. -/
  | each (line : Nat) (name : Chars) (words : Option (List (List Part))) (body : List Command)
  /-- The first branch with a pattern that the word matches. -/
  | choose (line : Nat) (word : List Part) (branches : List (List (List Part) × List Command))
  | define (name : Chars) (body : Command)
  | redirected (line : Nat) (c : Command) (redirections : List Redirection)

end

/-- A word, as the parts that are put together. -/
abbrev Word := List Part

/-- A redirection with its document, if it awaits one. -/
def Redirection.supplied (documents : Array Word) : Redirection → Redirection
  | .awaited descriptor number => .mk descriptor .document (documents.getD number [])
  | r => r

mutual

/-- A command with the documents that it awaits. -/
def Command.supplied (documents : Array Word) : Command → Command
  | .simple line assignments words rs =>
    .simple line assignments words (rs.map (Redirection.supplied documents))
  | .pipeline cs => .pipeline (suppliedAll documents cs)
  | .negated c => .negated (c.supplied documents)
  | .both c d => .both (c.supplied documents) (d.supplied documents)
  | .either c d => .either (c.supplied documents) (d.supplied documents)
  | .background c => .background (c.supplied documents)
  | .block cs => .block (suppliedAll documents cs)
  | .subshell cs => .subshell (suppliedAll documents cs)
  | .branch condition yes no =>
    .branch (suppliedAll documents condition) (suppliedAll documents yes)
      (suppliedAll documents no)
  | .loop outcome condition body =>
    .loop outcome (suppliedAll documents condition) (suppliedAll documents body)
  | .each line name words body => .each line name words (suppliedAll documents body)
  | .choose line word bs => .choose line word (suppliedBranches documents bs)
  | .define name body => .define name (body.supplied documents)
  | .redirected line c rs =>
    .redirected line (c.supplied documents) (rs.map (Redirection.supplied documents))

/-- Commands with the documents that they await. -/
def suppliedAll (documents : Array Word) : List Command → List Command
  | [] => []
  | c :: cs => c.supplied documents :: suppliedAll documents cs

/-- Branches with the documents that they await. -/
def suppliedBranches (documents : Array Word) :
    List (List Word × List Command) → List (List Word × List Command)
  | [] => []
  | b :: bs => suppliedBranch documents b :: suppliedBranches documents bs

/-- A branch with the documents that it awaits. -/
def suppliedBranch (documents : Array Word) :
    List Word × List Command → List Word × List Command
  | (patterns, body) => (patterns, suppliedAll documents body)

end

/-- Whether a character may begin a name. -/
def isNameStart (c : Char) : Bool := c.isAlpha || c == '_'

/-- Whether a character may go on in a name. -/
def isNamePart (c : Char) : Bool := c.isAlphanum || c == '_'

/-- Whether characters are a name. -/
def isName : Chars → Bool
  | [] => false
  | c :: cs => isNameStart c && cs.all isNamePart

/-- Puts a part in front of a word; neighbours of one kind become one. -/
def Part.cons : Part → Word → Word
  | .plain cs, .plain ds :: w => .plain (cs ++ ds) :: w
  | .quoted cs, .quoted ds :: w => .quoted (cs ++ ds) :: w
  | p, w => p :: w

/-- The special commands: no function has the name of one, and where one gives up, the script
ends. -/
def isSpecialCommand (name : Chars) : Bool :=
  [".", ":", "break", "continue", "eval", "exec", "exit", "export", "local", "readonly", "return",
    "set", "shift", "times", "trap", "unset"].contains (String.ofList name)

/-- The characters of a word that has neither quotes nor anything to replace. -/
def Word.plain? : Word → Option Chars
  | [.plain cs] => some cs
  | _ => none

/-- The name and the value of a word that assigns. -/
def Word.assignment? : Word → Option (Chars × Word)
  | .plain cs :: w =>
    match cs.span isNamePart with
    | (name, '=' :: value) =>
      if isName name then some (name, if value.isEmpty then w else .plain value :: w) else none
    | _ => none
  | _ => none

end SchemaCheck.Testing.Shell
