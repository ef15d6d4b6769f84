/-!
# Schema files

What a check is told about a schema file: its messages with their fields and nested messages, and
the places in the source text that were recorded for them. A thing inside a file is addressed by its
path, the field numbers and list indexes that lead to it in the description of the file.
-/

namespace SchemaCheck

/-- The way to a thing inside a schema file. -/
abbrev SourcePath := List Int32

/-- The span and the comments recorded for one path. A span is line, column and end column, or line,
column, end line and end column, counted from zero. -/
structure SourceSpan where
  path : SourcePath := []
  span : List Int32 := []
  leading : String := ""
  trailing : String := ""
  detached : List String := []
  deriving DecidableEq, Repr

namespace SourceSpan

/-- The line where the thing starts. -/
def startLine (s : SourceSpan) : Int32 := s.span.head?.getD 0

/-- The column where the thing starts. -/
def startColumn (s : SourceSpan) : Int32 := s.span[1]?.getD 0

/-- The line where the thing ends: that of its start in a span of three numbers. -/
def endLine (s : SourceSpan) : Int32 :=
  match s.span with
  | [line, _, _] => line
  | [_, _, line, _] => line
  | _ => 0

/-- The column where the thing ends. -/
def endColumn (s : SourceSpan) : Int32 :=
  match s.span with
  | [_, _, column] => column
  | [_, _, _, column] => column
  | _ => 0

end SourceSpan

/-- A field of a message. -/
structure FieldDescriptor where
  name : String
  number : Int32
  /-- The full name of the message that the field holds; scalars have none. -/
  typeName : Option String := none
  deriving DecidableEq, Repr, Inhabited

/-- A message with its fields and the messages declared inside it. -/
inductive MessageDescriptor where
  | mk (name : String) (fields : List FieldDescriptor) (nested : List MessageDescriptor)
  deriving Repr, Inhabited

namespace MessageDescriptor

/-- The name of a message, without those of the messages around it. -/
def name : MessageDescriptor → String
  | mk name _ _ => name

/-- The fields of a message. -/
def fields : MessageDescriptor → List FieldDescriptor
  | mk _ fields _ => fields

/-- The messages declared inside a message. -/
def nested : MessageDescriptor → List MessageDescriptor
  | mk _ _ nested => nested

end MessageDescriptor

/-- A schema file. -/
structure FileDescriptor where
  name : String
  package : String := ""
  /-- The dialect that the file declares, if it declares one. -/
  dialect : Option String := none
  dependencies : List String := []
  messages : List MessageDescriptor := []
  spans : List SourceSpan := []
  deriving Repr

namespace FileDescriptor

/-- What is recorded for a path: the first span with that path, or an empty one. -/
def spanAt (f : FileDescriptor) (path : SourcePath) : SourceSpan :=
  (f.spans.find? fun s => s.path == path).getD {}

/-- The path of the declaration of the dialect. -/
def dialectPath : SourcePath := [12]

/-- The path of the declaration of the package. -/
def packagePath : SourcePath := [2]

end FileDescriptor

/-- A schema file as a check is given it. An import is there for others to refer to and is not
itself checked. Files are told apart by name. -/
structure SchemaFile where
  descriptor : FileDescriptor
  isImport : Bool := false
  deriving Repr

namespace SchemaFile

/-- The name of a file. -/
def name (f : SchemaFile) : String := f.descriptor.name

/-- Whether a file declares no dialect, or an empty one. -/
def isDialectUnspecified (f : SchemaFile) : Bool := f.descriptor.dialect.all String.isEmpty

end SchemaFile

end SchemaCheck
