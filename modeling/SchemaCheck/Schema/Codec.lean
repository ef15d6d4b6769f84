import SchemaCheck.Message.Codec
import SchemaCheck.Schema.Descriptor

/-!
# Schema files in messages

The JSON form of schema files. Empty comments, an empty package, an undeclared dialect and an empty
list of dependencies are not written; all else is. A message may hold messages, so its codec calls
itself; it reads the nested ones as they stand and then decodes each with the budget that is left.
-/

namespace SchemaCheck

/-- Paths, as arrays of numbers. -/
def SourcePath.codec : Codec SourcePath := .list .int32

/-- Source spans. -/
def SourceSpan.codec : Codec SourceSpan :=
  .record
    (.cons { name := "path", codec := SourcePath.codec, default? := some [] } <|
      .cons { name := "span", codec := .list .int32, default? := some [] } <|
      .cons { name := "leading_comments", codec := .string, default? := some "",
              isOmitted := String.isEmpty } <|
      .cons { name := "trailing_comments", codec := .string, default? := some "",
              isOmitted := String.isEmpty } <|
      .cons { name := "leading_detached_comments", codec := .list .string, default? := some [],
              isOmitted := List.isEmpty } .nil)
    (fun (path, span, leading, trailing, detached, ()) => ⟨path, span, leading, trailing, detached⟩)
    (fun s => (s.path, s.span, s.leading, s.trailing, s.detached, ()))

/-- Fields. -/
def FieldDescriptor.codec : Codec FieldDescriptor :=
  .record
    (.cons { name := "name", codec := .string } <|
      .cons { name := "number", codec := .int32 } <|
      .cons { name := "type_name", codec := .optional .string, default? := some none,
              isOmitted := Option.isNone } .nil)
    (fun (name, number, typeName, ()) => ⟨name, number, typeName⟩)
    (fun f => (f.name, f.number, f.typeName, ()))

namespace MessageDescriptor

/-- A message whose nested messages stand as JSON. -/
def shellCodec : Codec (String × List FieldDescriptor × List Json × Unit) :=
  .record
    (.cons { name := "name", codec := .string } <|
      .cons { name := "fields", codec := .list FieldDescriptor.codec, default? := some [] } <|
      .cons { name := "nested_messages", codec := .list .raw, default? := some [] } .nil)
    id id

mutual

/-- The JSON form of a message. -/
def encode : MessageDescriptor → Json
  | .mk name fields nested => shellCodec.encode (name, fields, encodeAll nested, ())

/-- The JSON forms of several messages. -/
def encodeAll : List MessageDescriptor → List Json
  | [] => []
  | m :: ms => m.encode :: encodeAll ms

end

/-- The message that a JSON value writes. Its nested messages are two levels further in: one is the
message, one the array that holds them. -/
def decode (budget : Nat) (j : Json) : Option MessageDescriptor :=
  match budget with
  | 0 => none
  | 1 => do
    let (name, fields, nested, ()) ← shellCodec.decode 1 j
    if nested.isEmpty then some (.mk name fields []) else none
  | budget + 2 => do
    let (name, fields, nested, ()) ← shellCodec.decode (budget + 2) j
    let nested ← nested.mapM (decode budget)
    some (.mk name fields nested)

/-- Messages. -/
def codec : Codec MessageDescriptor := ⟨encode, decode⟩

end MessageDescriptor

/-- Schema files. -/
def FileDescriptor.codec : Codec FileDescriptor :=
  .record
    (.cons { name := "name", codec := .string } <|
      .cons { name := "package", codec := .string, default? := some "",
              isOmitted := String.isEmpty } <|
      .cons { name := "syntax", codec := .optional .string, default? := some none,
              isOmitted := Option.isNone } <|
      .cons { name := "dependencies", codec := .list .string, default? := some [],
              isOmitted := List.isEmpty } <|
      .cons { name := "messages", codec := .list MessageDescriptor.codec, default? := some [] } <|
      .cons { name := "source_locations", codec := .list SourceSpan.codec,
              default? := some [] } .nil)
    (fun (name, package, dialect, dependencies, messages, spans, ()) =>
      ⟨name, package, dialect, dependencies, messages, spans⟩)
    (fun f => (f.name, f.package, f.dialect, f.dependencies, f.messages, f.spans, ()))

/-- Schema files as a check is given them. -/
def SchemaFile.codec : Codec SchemaFile :=
  .record
    (.cons { name := "file_descriptor", codec := FileDescriptor.codec } <|
      .cons { name := "is_import", codec := .bool, default? := some false } .nil)
    (fun (descriptor, isImport, ()) => ⟨descriptor, isImport⟩)
    (fun f => (f.descriptor, f.isImport, ()))

end SchemaCheck
