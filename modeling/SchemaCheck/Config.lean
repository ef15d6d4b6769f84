import SchemaCheck.Config.Toml
import SchemaCheck.Options

/-!
# Configurations

What a caller wants checked: the rules and categories to use, those to leave out, and the options.
A configuration is read from a TOML document, in which every key is known and given once.
-/

namespace SchemaCheck

/-- A selection of rules, with options. -/
structure Config where
  /-- The version of the format. -/
  version : Option String := none
  /-- The rules and categories to use; none means the defaults of the provider. -/
  use : List String := []
  /-- The rules and categories to leave out. -/
  except : List String := []
  /-- The options, in ascending order of keys. -/
  options : List (String × String) := []
  deriving DecidableEq, Repr

namespace Config

/-- The version of the format that is supported. -/
def supportedVersion : String := "1"

/-- How the options of a document came about, which decides whether more may be added. -/
inductive OptionsOrigin where
  | absent
  /-- By dotted keys; more dotted keys may follow. -/
  | dotted
  /-- By a table, or a header that the keys of a table follow. -/
  | table
  deriving DecidableEq, Repr

/-- What was read of a document so far. -/
structure Reading where
  version : Option String := none
  use : Option (List String) := none
  except : Option (List String) := none
  options : List (String × String) := []
  origin : OptionsOrigin := .absent
  /-- Whether the header of the options was read, so that all keys are options. -/
  inOptions : Bool := false

/-- A value that is text. -/
def text? : Toml.Value → Option String
  | .text s => some s
  | _ => none

/-- A value that is an array of texts. -/
def texts? : Toml.Value → Option (List String)
  | .array vs => vs.mapM text?
  | _ => none

/-- The first value that is given for a key, and no second one. -/
def once {α : Type} (given : Option α) (value : Option α) : Option (Option α) :=
  match given, value with
  | none, some a => some (some a)
  | _, _ => none

namespace Reading

/-- Adds an option with a new key. -/
def addOption? (r : Reading) (key : String) (value : Toml.Value) : Option Reading := do
  let value ← text? value
  if r.options.any fun o => o.1 == key then none
  else some { r with options := Text.insertKey key value r.options }

/-- Adds the entries of a table of options. -/
def addTable? (r : Reading) : List (List String × Toml.Value) → Option Reading
  | [] => some r
  | ([key], value) :: rest => do
    let r ← r.addOption? key value
    r.addTable? rest
  | _ => none

/-- Takes in a statement, unless it gives something again or gives what there is not. -/
def add? (r : Reading) : Toml.Statement → Option Reading
  | .header path =>
    if path = ["options"] ∧ r.origin = .absent then
      some { r with origin := .table, inOptions := true }
    else none
  | .assign path value =>
    if r.inOptions then
      match path with
      | [key] => r.addOption? key value
      | _ => none
    else
      match path, value with
      | ["version"], value => do
        some { r with version := ← once r.version (text? value) }
      | ["use"], value => do
        some { r with use := ← once r.use (texts? value) }
      | ["except"], value => do
        some { r with except := ← once r.except (texts? value) }
      | ["options"], .table entries =>
        if r.origin = .absent then { r with origin := .table }.addTable? entries else none
      | ["options", key], value =>
        if r.origin = .table then none else { r with origin := .dotted }.addOption? key value
      | _, _ => none

end Reading

/-- The configuration that a document gives. -/
def ofStatements? (statements : List Toml.Statement) : Option Config := do
  let r ← statements.foldlM Reading.add? {}
  some ⟨r.version, r.use.getD [], r.except.getD [], r.options⟩

/-- Accepts the configurations of a supported version; one without a version is taken to be so. -/
def checkVersion (c : Config) : Result Unit :=
  match c.version with
  | none => .ok ()
  | some v =>
    if v = supportedVersion then .ok ()
    else .error (.config ("Unsupported config version '" ++ v ++ "'. Only version '" ++
      supportedVersion ++ "' is supported."))

/-- The configuration in the text of a file. -/
def ofText (text : String) : Result Config :=
  match (Toml.parse? text).bind ofStatements? with
  | none => .error (.toml "not a configuration")
  | some c => do
    c.checkVersion
    return c

end Config

end SchemaCheck
