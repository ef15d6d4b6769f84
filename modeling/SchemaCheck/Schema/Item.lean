import SchemaCheck.Schema.Descriptor

/-!
# Messages and fields in their file

A message or a field together with the file that declares it, the path that leads to it there and
its full name. Paths use the tags of the description of a file: 4 for a message of a file, 3 for a
message inside a message, 2 for a field, each followed by an index.
-/

namespace SchemaCheck

/-- A name inside a scope: with a dot between, unless the scope is empty. -/
def qualify (scope name : String) : String :=
  if scope.isEmpty then name else scope ++ "." ++ name

/-- An index as it stands in a path; those too large for a path all stand as the greatest. -/
def pathIndex (i : Nat) : Int32 := Int32.ofNat (min i 2147483647)

/-- The path of entry `i` of the list with tag `tag` inside the thing at `parent`. -/
def SourcePath.child (parent : SourcePath) (tag : Int32) (i : Nat) : SourcePath :=
  parent ++ [tag, pathIndex i]

/-- A message in its file. -/
structure MessageItem where
  file : FileDescriptor
  message : MessageDescriptor
  path : SourcePath
  fullName : String

/-- A field in its file. -/
structure FieldItem where
  file : FileDescriptor
  field : FieldDescriptor
  path : SourcePath
  fullName : String

namespace MessageItem

/-- The name of a message in its scope. -/
def name (m : MessageItem) : String := m.message.name

/-- The fields of a message, in order. -/
def fields (m : MessageItem) : List FieldItem :=
  m.message.fields.mapIdx fun i f =>
    ⟨m.file, f, SourcePath.child m.path 2 i, qualify m.fullName f.name⟩

/-- The messages declared inside a message, in order. -/
def nested (m : MessageItem) : List MessageItem :=
  m.message.nested.mapIdx fun i n =>
    ⟨m.file, n, SourcePath.child m.path 3 i, qualify m.fullName n.name⟩

mutual

/-- A message and all messages inside it, each before those inside it. -/
def walk (file : FileDescriptor) (path : SourcePath) (scope : String) :
    MessageDescriptor → List MessageItem
  | .mk name fields nested =>
    let fullName := qualify scope name
    ⟨file, .mk name fields nested, path, fullName⟩ :: walkNested file path fullName 0 nested

/-- The messages in the list inside a message, from index `i` on, with all inside them. -/
def walkNested (file : FileDescriptor) (parent : SourcePath) (scope : String) (i : Nat) :
    List MessageDescriptor → List MessageItem
  | [] => []
  | m :: ms =>
    walk file (SourcePath.child parent 3 i) scope m ++ walkNested file parent scope (i + 1) ms

end

end MessageItem

namespace FieldItem

/-- The name of a field in its message. -/
def name (f : FieldItem) : String := f.field.name

/-- The full name of the message that a field holds. -/
def messageType (f : FieldItem) : Option String := f.field.typeName

end FieldItem

namespace FileDescriptor

/-- The messages of a file that are inside no other, in order. -/
def messageItems (f : FileDescriptor) : List MessageItem :=
  f.messages.mapIdx fun i m => ⟨f, m, SourcePath.child [] 4 i, qualify f.package m.name⟩

/-- All messages of a file: each before those inside it, and otherwise in order. -/
def allMessages (f : FileDescriptor) : List MessageItem :=
  (f.messages.mapIdx fun i m => MessageItem.walk f (SourcePath.child [] 4 i) f.package m).flatten

/-- All fields of a file, message by message. -/
def allFields (f : FileDescriptor) : List FieldItem :=
  f.allMessages.flatMap MessageItem.fields

end FileDescriptor

end SchemaCheck
