import SchemaCheck.Schema.Item
import SchemaCheck.Spec

/-!
# Walks

Rules that look at one thing at a time: at each file of a request that is no import, at each message
in such files, or at each field. Files come in the order of the request, messages before those
inside them, fields in order. The walk ends at the first fault, and does not enter a file once the
call is over.
-/

namespace SchemaCheck

variable {ω : Type}

/-- Visits the files that are no imports, as long as the call goes on. -/
def walkFiles (visit : SchemaFile → Activity ω Unit) : List SchemaFile → Activity ω Unit
  | [] => pure ()
  | f :: fs =>
    if f.isImport then walkFiles visit fs
    else do
      Activity.check
      visit f
      walkFiles visit fs

/-- Visits all messages of the files. -/
def walkMessages (visit : MessageItem → Activity ω Unit) : List SchemaFile → Activity ω Unit :=
  walkFiles fun f => Activity.forEach visit f.descriptor.allMessages

/-- Visits all fields of the files. -/
def walkFields (visit : FieldItem → Activity ω Unit) : List SchemaFile → Activity ω Unit :=
  walkFiles fun f => Activity.forEach visit f.descriptor.allFields

namespace Handler

/-- A rule that looks at each file. -/
def forEachFile (visit : String → Request → SchemaFile → Activity Draft Unit) : Handler :=
  fun id r => walkFiles (visit id r) r.files

/-- A rule that looks at each message. -/
def forEachMessage (visit : String → Request → MessageItem → Activity Draft Unit) : Handler :=
  fun id r => walkMessages (visit id r) r.files

/-- A rule that looks at each field. -/
def forEachField (visit : String → Request → FieldItem → Activity Draft Unit) : Handler :=
  fun id r => walkFields (visit id r) r.files

end Handler

/-- A target at a file as a whole. -/
def SchemaFile.target (f : SchemaFile) : Target := { descriptor := some (some f.name, []) }

/-- A target at a message. -/
def MessageItem.target (m : MessageItem) : Target :=
  { descriptor := some (some m.file.name, m.path) }

/-- A target at a field. -/
def FieldItem.target (f : FieldItem) : Target := { descriptor := some (some f.file.name, f.path) }

end SchemaCheck
