import SchemaCheck.Text.SnakeCase
import SchemaCheck.Walk

/-!
# Demonstration rules

Three small rules with their categories: fields are named in lower_snake_case, fields that hold a
timestamp end in a suffix that an option sets, and files declare no dialect.
-/

namespace SchemaCheck.Demo

open Text (quoted)

/-- The category of rules about names. -/
def styleCategory : Category := { id := "STYLE", purpose := "Checks naming style." }

/-- The category of rules about files. -/
def fileCategory : Category := { id := "FILE", purpose := "Checks file-level declarations." }

/-- Looks at the name of a field: is it in lower_snake_case? -/
def checkFieldName : Handler :=
  .forEachField fun _ _ f => do
    let expected := Text.lowerSnakeCase f.name
    if f.name ≠ expected then
      .give {
        message := "Field name " ++ quoted f.name ++ " should be lower_snake_case, such as " ++
          quoted expected ++ "."
        current := f.target }

/-- The rule about the names of fields. -/
def fieldNameRule : RuleSpec where
  id := "FIELD_LOWER_SNAKE_CASE"
  categoryIds := [styleCategory.id]
  purpose := "Checks that all field names are lower_snake_case."
  type := .lint
  handler := checkFieldName

/-- The option that sets the suffix of timestamps. -/
def suffixKey : String := "timestamp_suffix"

/-- The suffix of timestamps when no option sets one. -/
def defaultSuffix : String := "_time"

/-- The full name of the message that holds a timestamp. -/
def timestampType : String := "google.protobuf.Timestamp"

/-- Looks at a field that holds a timestamp: does its name end in the suffix? -/
def checkTimestamp : Handler :=
  .forEachField fun _ r f => do
    let suffix ← match ← .ofResult (r.options.getText? suffixKey) with
      | some s => if s.isEmpty then pure defaultSuffix else pure s
      | none => pure defaultSuffix
    if f.messageType = some timestampType && !suffix.toList.isSuffixOf f.name.toList then
      .give {
        message := "Fields of type " ++ timestampType ++ " must end in " ++ quoted suffix ++
          " but field name was " ++ quoted f.name ++ "."
        current := f.target }

/-- The rule about timestamps. -/
def timestampRule : RuleSpec where
  id := "TIMESTAMP_SUFFIX"
  categoryIds := [styleCategory.id]
  isDefault := true
  purpose := "Checks that all google.protobuf.Timestamps end in a specific suffix " ++
    "(default is \"_time\")."
  type := .lint
  handler := checkTimestamp

/-- Looks at a file: does it declare a dialect? -/
def checkDialect : Handler :=
  .forEachFile fun _ _ f => do
    if !f.isDialectUnspecified then
      .give {
        message := "Syntax should not be specified but was " ++
          quoted (f.descriptor.dialect.getD "") ++ "."
        current := { fileName := some f.name, path := some FileDescriptor.dialectPath } }

/-- The rule about dialects. -/
def dialectRule : RuleSpec where
  id := "SYNTAX_UNSPECIFIED"
  categoryIds := [fileCategory.id]
  isDefault := true
  purpose := "Checks that syntax is never specified."
  type := .lint
  handler := checkDialect

/-- The demonstration rules with their categories. -/
def spec : Spec where
  rules := [fieldNameRule, timestampRule, dialectRule]
  categories := [styleCategory, fileCategory]

end SchemaCheck.Demo
