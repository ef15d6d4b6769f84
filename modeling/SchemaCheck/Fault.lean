import SchemaCheck.Text.Quoted

/-!
# Faults

Everything that can go wrong in a check, by cause. Each fault has a text for people (`message`), a
code that survives the way from a provider to its caller (`code`), and a label for the part of the
program that raised it (`label`). Several faults found together are one `joined` fault; a fault
that a listing cache remembers is `shared`, and keeps the code and the text of what it wraps.
-/

namespace SchemaCheck

open Text (quoted)

/-- The namespaces that identifiers belong to. -/
inductive IdKind where
  | rule
  | category
  /-- Rules and categories together, which may not collide. -/
  | ruleOrCategory
  | optionKey
  deriving DecidableEq, Repr

/-- The words for a namespace. -/
def IdKind.name : IdKind → String
  | rule => "rule"
  | category => "category"
  | ruleOrCategory => "rule or category"
  | optionKey => "option key"

/-- The status that a caller sees, whatever lies between it and the fault. -/
inductive FaultCode where
  | invalidArgument
  | canceled
  | deadlineExceeded
  | unimplemented
  | internal
  deriving DecidableEq, Repr

/-- The name of a code, in messages and on the wire. -/
def FaultCode.name : FaultCode → String
  | invalidArgument => "invalid_argument"
  | canceled => "canceled"
  | deadlineExceeded => "deadline_exceeded"
  | unimplemented => "unimplemented"
  | internal => "internal"

/-- All codes. -/
def FaultCode.all : List FaultCode :=
  [invalidArgument, canceled, deadlineExceeded, unimplemented, internal]

/-- What went wrong. -/
inductive Fault where
  /-- The identifiers that were given more than once. -/
  | duplicateId (kind : IdKind) (ids : List String)
  | danglingCategory (ruleId categoryId : String)
  /-- A category that no rule is in. -/
  | orphanCategory (id : String)
  | invalidReplacement (kind : IdKind) (id reason : String)
  | invalidId (kind : IdKind) (id reason : String)
  | invalidSpec (detail : String)
  | invalidOption (detail : String)
  | invalidRequest (detail : String)
  | invalidArgument (detail : String)
  | invalidFinding (detail : String)
  /-- A response was asked for twice, or added to after it was given. -/
  | alreadyWritten
  | joined (faults : List Fault)
  | cancelled
  | deadlineExceeded
  | unknownMethod (name : String)
  /-- What a provider on the other side of a call reported. -/
  | remote (code : FaultCode) (message : String)
  /-- Raised by the code of a rule. -/
  | handler (detail : String)
  /-- A payload that is not the message it should be. -/
  | json (detail : String)
  | io (detail : String)
  | fileRead (path detail : String)
  | toml (detail : String)
  | config (detail : String)
  | shared (inner : Fault)
  deriving Repr, Inhabited

/-- A computation that may fail. -/
abbrev Result := Except Fault

namespace Fault

mutual

/-- The text of a fault. -/
def message : Fault → String
  | duplicateId kind ids => "Duplicate " ++ kind.name ++ " IDs: " ++ ", ".intercalate ids
  | danglingCategory ruleId categoryId =>
    "Rule " ++ quoted ruleId ++ " references unknown category " ++ quoted categoryId
  | orphanCategory id => "No rule references category " ++ quoted id
  | invalidReplacement kind id reason =>
    "Invalid replacement on " ++ kind.name ++ " " ++ quoted id ++ ": " ++ reason
  | invalidId kind id reason => "Invalid " ++ kind.name ++ " ID " ++ quoted id ++ ": " ++ reason
  | invalidSpec detail => "Invalid spec: " ++ detail
  | invalidOption detail => "Invalid option: " ++ detail
  | invalidRequest detail => "Invalid request: " ++ detail
  | invalidArgument detail => "Invalid argument: " ++ detail
  | invalidFinding detail => "Invalid annotation: " ++ detail
  | alreadyWritten => "Cannot reuse response writer: response already written"
  | joined faults => "\n".intercalate (messages faults)
  | cancelled => "Call was cancelled"
  | deadlineExceeded => "Call deadline exceeded"
  | unknownMethod name => "Unknown method: " ++ quoted name
  | remote code message => "Provider error (" ++ code.name ++ "): " ++ message
  | handler detail => detail
  | json detail => "JSON serialization error: " ++ detail
  | io detail => "IO error: " ++ detail
  | fileRead path _ => "Failed to read file: " ++ path
  | toml detail => "TOML parse error: " ++ detail
  | config detail => "Configuration error: " ++ detail
  | shared inner => inner.message

/-- The texts of several faults. -/
def messages : List Fault → List String
  | [] => []
  | f :: fs => f.message :: messages fs

end

/-- The texts of several faults, one by one. -/
@[simp] theorem messages_eq_map (fs : List Fault) : messages fs = fs.map message := by
  induction fs with
  | nil => rfl
  | cons f fs ih => simp [messages, ih]

/-- The code under which a fault is reported to a caller. -/
def code : Fault → FaultCode
  | invalidArgument _ | invalidRequest _ | invalidOption _ | invalidId .. | json _ =>
    .invalidArgument
  | cancelled => .canceled
  | deadlineExceeded => .deadlineExceeded
  | unknownMethod _ => .unimplemented
  | remote code _ => code
  | shared inner => inner.code
  | _ => .internal

/-- The part of the program that a fault comes from. -/
def label : Fault → String
  | duplicateId .. | danglingCategory .. | orphanCategory _ | invalidReplacement .. | invalidId ..
  | invalidSpec _ => "Spec"
  | invalidOption _ | invalidRequest _ | invalidArgument _ => "Argument"
  | invalidFinding _ | alreadyWritten | joined _ => "Response"
  | cancelled | deadlineExceeded => "Context"
  | unknownMethod _ | remote .. | json _ => "Transport"
  | handler _ => "Handler"
  | io _ | fileRead .. => "IO"
  | toml _ | config _ => "Config"
  | shared _ => "Cached"

/-- The text of the failure underneath, where a fault reports one from outside the library. -/
def source : Fault → Option String
  | handler detail | json detail | io detail | fileRead _ detail | toml detail => some detail
  | shared inner => inner.source
  | _ => none

/-- Faults found together: none, one as itself, or several joined. -/
def join : List Fault → Option Fault
  | [] => none
  | [f] => some f
  | fs => some (joined fs)

/-- The fault of asking for rules that are not there. -/
def unknownRules (ids : List String) : Fault :=
  invalidArgument ("unknown rule IDs: " ++ ", ".intercalate ids)

end Fault

end SchemaCheck
