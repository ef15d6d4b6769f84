import SchemaCheck.Config

/-!
# Loading configurations

Where a configuration is looked for: at a given path, or in the file `rulecheck.toml` of the current
directory, where the default configuration stands in for a missing file.
-/

namespace SchemaCheck

/-- What loading asks of a file system, in whatever monad it answers. -/
structure FileSystem (m : Type → Type) where
  /-- The text of a file, or why it cannot be read as text. -/
  read : String → m (Except String String)
  isFile : String → m Bool
  currentDir : m (Option String)

namespace Config

/-- The file that is looked for in the current directory. -/
def localName : String := "rulecheck.toml"

/-- The path of a file in a directory. -/
def joinPath (dir name : String) : String :=
  if dir.isEmpty || dir.toList.getLast? == some '/' then dir ++ name else dir ++ "/" ++ name

variable {m : Type → Type} [Monad m]

/-- The configuration in the file at a path. -/
def loadFrom (fs : FileSystem m) (path : String) : m (Result Config) := do
  match ← fs.read path with
  | .error detail => return .error (.fileRead path detail)
  | .ok text => return ofText text

/-- The configuration of the current directory. -/
def load (fs : FileSystem m) : m (Result Config) := do
  match ← fs.currentDir with
  | none => return .ok {}
  | some dir =>
    let path := joinPath dir localName
    if ← fs.isFile path then loadFrom fs path else return .ok {}

end Config

end SchemaCheck
