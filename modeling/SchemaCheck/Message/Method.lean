import SchemaCheck.Message.Codec

/-!
# Methods and failures

The three operations that a provider serves, by name, and the message that stands in place of an
answer when one fails.
-/

namespace SchemaCheck

/-- What a provider can be asked to do. -/
inductive Method where
  | check
  | listRules
  | listCategories
  deriving DecidableEq, Repr

namespace Method

/-- All methods. -/
def all : List Method := [check, listRules, listCategories]

/-- The name under which a method is called. -/
def procedure : Method → String
  | check => "check"
  | listRules => "list-rules"
  | listCategories => "list-categories"

/-- The method with the given name. -/
def ofProcedure? (name : String) : Result Method :=
  match all.find? fun m => m.procedure == name with
  | some m => .ok m
  | none => .error (.unknownMethod name)

end Method

/-- A fault as it is sent. -/
structure FaultMessage where
  code : FaultCode
  message : String
  deriving DecidableEq, Repr

namespace FaultMessage

/-- Codes of faults. -/
def codeCodec : Codec FaultCode := .enumeration FaultCode.all FaultCode.name

/-- Faults as they are sent. -/
def codec : Codec FaultMessage :=
  .record
    (.cons { name := "code", codec := codeCodec } <|
      .cons { name := "message", codec := .string } .nil)
    (fun (code, message, ()) => ⟨code, message⟩)
    (fun m => (m.code, m.message, ()))

/-- What is sent of a fault. -/
def ofFault (f : Fault) : FaultMessage := ⟨f.code, f.message⟩

/-- The fault that a caller sees. -/
def fault (m : FaultMessage) : Fault := .remote m.code m.message

end FaultMessage

end SchemaCheck
