import SchemaCheck.Testing.Host.Chars

/-!
# Files

A tree of files in memory. Directories give names to nodes by number; a path is followed from a
directory name by name. A node is never taken away: one that no directory names any more can still
be read through what has been opened before.
-/

namespace SchemaCheck.Testing.Host

/-- Why something is refused. -/
inductive Refusal where
  | missing
  | notDirectory
  | isDirectory
  | present
  | nameTooLong
  | badDescriptor
  | notEmpty
  | broken
  | tooManyLinks
  | invalid
  | notPermitted
  | denied
  | noSpace
  | busy
  | unseekable
  deriving DecidableEq

/-- The words for a refusal. -/
def Refusal.text : Refusal → String
  | missing => "No such file or directory"
  | notDirectory => "Not a directory"
  | isDirectory => "Is a directory"
  | present => "File exists"
  | nameTooLong => "File name too long"
  | badDescriptor => "Bad file descriptor"
  | notEmpty => "Directory not empty"
  | broken => "Broken pipe"
  | tooManyLinks => "Too many levels of symbolic links"
  | invalid => "Invalid argument"
  | notPermitted => "Operation not permitted"
  | denied => "Permission denied"
  | noSpace => "No space left on device"
  | busy => "Device or resource busy"
  | unseekable => "Illegal seek"

/-- What is behind a node that is no file on a disk. -/
inductive Device where
  /-- Nothing comes from there, and what goes there is lost. -/
  | null
  /-- As many zeros come from there as are asked for. -/
  | zero
  /-- Zeros come from there, and nothing can go there. -/
  | full
  /-- What a descriptor of the process leads to. -/
  | descriptor (number : Nat)
  deriving DecidableEq

/-- What a node holds. -/
inductive Content where
  /-- The pieces of a file, the last one first, and how many characters they have. -/
  | file (pieces : List Chars) (size : Nat)
  /-- Names with the numbers of their nodes, among them the directory itself and the one above. -/
  | directory (entries : List (Chars × Nat))
  | link (target : Chars)
  | device (d : Device)
  /-- What was written and not read yet: pieces in order, then pieces with the last one first. -/
  | pipe (front back : List Chars) (size : Nat)
  | program (name : String)
  /-- What was written, to be looked at from outside: pieces, the last one first. -/
  | sink (pieces : List Chars)

/-- A node: what it holds, who may use it how, and when it last changed. -/
structure Node where
  content : Content
  mode : Nat := 0o644
  changed : Nat := 0

/-- A file with a text. -/
def Content.ofText (cs : Chars) : Content := .file [cs] cs.length

/-- The text of a file. -/
def Content.text : Content → Chars
  | .file pieces _ => pieces.reverse.flatten
  | .pipe front back _ => front.flatten ++ back.reverse.flatten
  | .sink pieces => pieces.reverse.flatten
  | _ => []

/-- How many characters there are. -/
def Content.size : Content → Nat
  | .file _ size | .pipe _ _ size => size
  | .directory _ => 4096
  | .link target => target.length
  | _ => 0

/-- The names in a directory. -/
def Content.entries : Content → List (Chars × Nat)
  | .directory entries => entries
  | _ => []

/-- Whether a node is a directory. -/
def Content.isDirectory : Content → Bool
  | .directory _ => true
  | _ => false

/-- A tree of files: its nodes by number, of which the first is the directory at the top. -/
structure Files where
  nodes : Array Node

/-- A name that a directory has for itself. -/
def selfName : Chars := ['.']

/-- A name that a directory has for the one above. -/
def aboveName : Chars := ['.', '.']

namespace Files

/-- The node of a number. -/
def node (f : Files) (n : Nat) : Node := f.nodes.getD n { content := .device .null }

/-- What the node of a number holds. -/
def content (f : Files) (n : Nat) : Content := (f.node n).content

/-- How far apart the times are at which something can change, in millionths of a second. -/
def tick : Nat := 4000

/-- Changes what a node holds. -/
def modify (f : Files) (now n : Nat) (g : Content → Content) : Files :=
  { f with nodes := f.nodes.modify n fun x =>
      { x with content := g x.content, changed := now - now % tick } }

/-- Adds a node that no directory names. -/
def add (f : Files) (x : Node) : Files × Nat := ({ f with nodes := f.nodes.push x }, f.nodes.size)

/-- The names of a path, one after another. A slash at the end asks for a directory. -/
def parts (path : Chars) : List Chars :=
  (Chars.splitAt '/' path).filter (!·.isEmpty) ++
    (if path.getLast? = some '/' then [selfName] else [])

/-- The directory that a path starts from. -/
def start (directory : Nat) (path : Chars) : Nat := if path.head? = some '/' then 0 else directory

/-- The most steps that following a path takes. -/
def stepLimit : Nat := 4096

/-- The longest name in a directory. -/
def nameLimit : Nat := 255

/-- The longest path, with the NUL at its end. -/
def pathLimit : Nat := 4096

/-- Follows names from a node, in at most `fuel` steps. A link at the end is followed if `toEnd`. -/
def walk (f : Files) (toEnd : Bool) : Nat → Nat → List Chars → Except Refusal Nat
  | 0, _, _ => .error .tooManyLinks
  | _ + 1, here, [] => .ok here
  | fuel + 1, here, name :: rest =>
    match f.content here with
    | .directory entries =>
      if name.length > nameLimit then .error .nameTooLong
      else match entries.lookup name with
        | none => .error .missing
        | some n =>
          match f.content n with
          | .link target =>
            if rest.isEmpty && !toEnd then .ok n
            else f.walk toEnd fuel (start here target) (parts target ++ rest)
          | _ => f.walk toEnd fuel n rest
    | _ => .error .notDirectory

/-- The node of a path, seen from a directory. -/
def find (f : Files) (directory : Nat) (path : Chars) (toEnd : Bool := true) :
    Except Refusal Nat :=
  if path.isEmpty || path.any (·.toNat == 0) then .error .missing
  else if pathLimit ≤ path.length then .error .nameTooLong
  else f.walk toEnd stepLimit (start directory path) (parts path)

/-- The directory in which a path names something, and the name. -/
def place (f : Files) (directory : Nat) (path : Chars) : Except Refusal (Nat × Chars) := do
  if path.isEmpty then throw .missing
  if pathLimit ≤ path.length then throw .nameTooLong
  let names := (Chars.splitAt '/' path).filter (!·.isEmpty)
  let name := names.getLastD selfName
  let above ← f.walk true stepLimit (start directory path) names.dropLast
  if !(f.content above).isDirectory then throw .notDirectory
  if name.length > nameLimit then throw .nameTooLong
  return (above, name)

/-- Gives a name in a directory to a node; one that had the name loses it. -/
def name (f : Files) (now directory : Nat) (name : Chars) (n : Nat) : Files :=
  f.modify now directory fun c => .directory (c.entries.filter (·.1 != name) ++ [(name, n)])

/-- Takes a name out of a directory. -/
def forget (f : Files) (now directory : Nat) (name : Chars) : Files :=
  f.modify now directory fun c => .directory (c.entries.filter (·.1 != name))

/-- Adds a node under a name. -/
def create (f : Files) (now directory : Nat) (name : Chars) (x : Node) : Files × Nat :=
  let (f, n) := f.add { x with changed := now - now % tick }
  (f.name now directory name n, n)

/-- Adds an empty directory under a name. -/
def createDirectory (f : Files) (now directory : Nat) (name : Chars) (mode : Nat := 0o755) :
    Files × Nat :=
  let (f, n) := f.create now directory name { content := .directory [], mode }
  (f.modify now n fun _ => .directory [(selfName, n), (aboveName, directory)], n)

/-- The names in a directory in order, without those for itself and the one above. -/
def names (f : Files) (n : Nat) : List Chars :=
  (((f.content n).entries.map Prod.fst).filter fun x => x != selfName && x != aboveName).mergeSort
    fun x y => !Chars.before y x

/-- The path of a directory, from the top. -/
def pathOf (f : Files) : Nat → Nat → Chars
  | 0, _ => []
  | fuel + 1, n =>
    match (f.content n).entries.lookup aboveName with
    | none => ['/']
    | some above =>
      if above = n then ['/']
      else
        let name := ((f.content above).entries.find? fun e => e.2 = n && e.1 != selfName &&
          e.1 != aboveName).map Prod.fst |>.getD []
        let path := f.pathOf fuel above
        if path = ['/'] then '/' :: name else path ++ '/' :: name

/-- An empty tree. -/
def empty : Files :=
  { nodes := #[{ content := .directory [(selfName, 0), (aboveName, 0)], mode := 0o755 }] }

/-- Adds a node under a path from the top, and the directories in which it lies. -/
def put (f : Files) (path : String) (x : Node) : Files :=
  go f 0 ((path.splitOn "/").filter (!·.isEmpty))
where
  /-- Adds a node under names from a directory on. -/
  go (f : Files) (here : Nat) : List String → Files
    | [] => f
    | [name] => (f.create 0 here (Chars.ofString name) x).1
    | name :: rest =>
      match (f.content here).entries.lookup (Chars.ofString name) with
      | some n => go f n rest
      | none =>
        let (f, n) := f.createDirectory 0 here (Chars.ofString name)
        go f n rest

end Files

end SchemaCheck.Testing.Host
