import SchemaCheck.Schema.Descriptor

/-!
# Locations

A location is a path in a file. Two locations are the same when the file names and the paths are.
The span and the comments are looked up in the file when they are first asked for, and remembered; a
location and its copies share what they remember (`Location.Memo`, `Locations`).
-/

namespace SchemaCheck

/-- A place in a file: its name and a path. -/
structure Place where
  fileName : String
  path : SourcePath := []
  deriving DecidableEq, Repr

/-- A path in a file. -/
structure Location where
  file : SchemaFile
  path : SourcePath := []
  deriving Repr

namespace Location

/-- The name of the file and the path, which say which location it is. -/
def place (l : Location) : Place := ⟨l.file.name, l.path⟩

/-- Whether two locations are the same. -/
def isSame (a b : Location) : Bool := a.place == b.place

/-- What is recorded in the file for the location. -/
def span (l : Location) : SourceSpan := l.file.descriptor.spanAt l.path

/-- What a location and its copies remember of the span, once it was looked up. -/
abbrev Memo := Option SourceSpan

/-- The span of a location, looked up unless it is remembered. -/
def resolve (l : Location) : StateM Memo SourceSpan := do
  match ← get with
  | some s => return s
  | none =>
    let s := l.span
    set (some s)
    return s

/-- A question to a location. -/
inductive Query where
  | isResolved
  | fileName
  | isImport
  | path
  | startLine
  | startColumn
  | endLine
  | endColumn
  | leading
  | trailing
  | detached
  deriving DecidableEq, Repr

/-- The answer to a question. -/
inductive Answer where
  | flag (value : Bool)
  | number (value : Int32)
  | text (value : String)
  | texts (values : List String)
  | path (value : SourcePath)
  deriving DecidableEq, Repr

/-- Whether a question is about what is recorded in the file. -/
def Query.needsSpan : Query → Bool
  | isResolved | fileName | isImport | path => false
  | _ => true

/-- What a span answers to the questions about it. -/
def Query.ofSpan (s : SourceSpan) : Query → Answer
  | startLine => .number s.startLine
  | startColumn => .number s.startColumn
  | endLine => .number s.endLine
  | endColumn => .number s.endColumn
  | leading => .text s.leading
  | trailing => .text s.trailing
  | detached => .texts s.detached
  | _ => .flag false

/-- Asks a location, or any of its copies: the span is looked up for the questions that need it. -/
def ask (l : Location) (q : Query) : StateM Memo Answer := do
  match q with
  | .isResolved => return .flag (← get).isSome
  | .fileName => return .text l.file.name
  | .isImport => return .flag l.file.isImport
  | .path => return .path l.path
  | q => return q.ofSpan (← l.resolve)

end Location

/-- Locations in use, and what they remember. -/
structure Locations where
  /-- The locations, each with the number of its memo. -/
  uses : List (Location × Nat) := []
  memos : List Location.Memo := []

namespace Locations

/-- A new location, which remembers nothing. -/
def create (ls : Locations) (l : Location) : Locations where
  uses := ls.uses ++ [(l, ls.memos.length)]
  memos := ls.memos ++ [none]

/-- A copy of a location, with the memo of that location. -/
def copy (ls : Locations) (i : Nat) : Locations :=
  match ls.uses[i]? with
  | none => ls
  | some u => { ls with uses := ls.uses ++ [u] }

/-- Asks one of the locations. -/
def ask (i : Nat) (q : Location.Query) : StateM Locations (Option Location.Answer) := do
  let ls ← get
  match ls.uses[i]? with
  | none => return none
  | some (l, m) =>
    let (answer, memo) := (l.ask q).run ls.memos[m]?.join
    set { ls with memos := ls.memos.set m memo }
    return some answer

/-- Whether two of the locations are the same. -/
def isSame (ls : Locations) (i j : Nat) : Option Bool := do
  let (a, _) ← ls.uses[i]?
  let (b, _) ← ls.uses[j]?
  return a.isSame b

end Locations

end SchemaCheck
