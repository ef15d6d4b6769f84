import SchemaCheck.Collector
import SchemaCheck.Schema.Codec

/-!
# The messages of a check

The JSON forms of the request that is sent for a check, and of the findings that come back.
-/

namespace SchemaCheck

/-- Options, one by one. -/
def optionCodec : Codec (String × Bytes) :=
  .record
    (.cons { name := "key", codec := .string } <|
      .cons { name := "value", codec := .list .byte } .nil)
    (fun (key, value, ()) => (key, value))
    (fun o => (o.1, o.2, ()))

/-- Places. -/
def Place.codec : Codec Place :=
  .record
    (.cons { name := "file_name", codec := .string } <|
      .cons { name := "source_path", codec := SourcePath.codec, default? := some [] } .nil)
    (fun (fileName, path, ()) => ⟨fileName, path⟩)
    (fun p => (p.fileName, p.path, ()))

/-- Findings as they are sent. -/
def FindingEntry.codec : Codec FindingEntry :=
  .record
    (.cons { name := "rule_id", codec := .string } <|
      .cons { name := "message", codec := .string, default? := some "" } <|
      .cons { name := "location", codec := .optional Place.codec, default? := some none,
              isOmitted := Option.isNone } <|
      .cons { name := "against_location", codec := .optional Place.codec, default? := some none,
              isOmitted := Option.isNone } .nil)
    (fun (ruleId, message, location, against, ()) => ⟨ruleId, message, location, against⟩)
    (fun e => (e.ruleId, e.message, e.location, e.against, ()))

/-- Requests as they are sent. -/
def CheckMessage.codec : Codec CheckMessage :=
  .record
    (.cons { name := "files", codec := .list SchemaFile.codec } <|
      .cons { name := "against_files", codec := .list SchemaFile.codec, default? := some [] } <|
      .cons { name := "options", codec := .list optionCodec, default? := some [] } <|
      .cons { name := "rule_ids", codec := .list .string, default? := some [] } .nil)
    (fun (files, againstFiles, options, ruleIds, ()) => ⟨files, againstFiles, options, ruleIds⟩)
    (fun m => (m.files, m.againstFiles, m.options, m.ruleIds, ()))

/-- A response as it is sent. -/
structure CheckReply where
  findings : List FindingEntry := []
  deriving DecidableEq, Repr

/-- Responses as they are sent. -/
def CheckReply.codec : Codec CheckReply :=
  .record
    (.cons { name := "annotations", codec := .list FindingEntry.codec, default? := some [] } .nil)
    (fun (findings, ()) => ⟨findings⟩)
    (fun r => (r.findings, ()))

/-- A response in the form in which it is sent. -/
def Response.reply (r : Response) : CheckReply := ⟨r.findings.map Finding.entry⟩

end SchemaCheck
