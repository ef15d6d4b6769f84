import SchemaCheck.Spec

/-!
# Validating a spec

The rules that the entries of a spec obey among one another, in the order in which they are asked.
`Spec.validate` reports the first violation.
-/

namespace SchemaCheck

open Text (quoted)

/-- Accepts the lists all of whose members a test accepts, and otherwise gives the first fault. -/
def checkEach {α : Type} (test : α → Result Unit) : List α → Result Unit
  | [] => .ok ()
  | a :: as => do
    test a
    checkEach test as

/-- Replacements of an entry: only a deprecated entry has any, and each is an entry of the same kind
that is not deprecated. `deprecation` says of an identifier whether the entry is deprecated, if
there is one. -/
def checkReplacements (kind : IdKind) (id : String) (deprecated : Bool) (replacements : List String)
    (deprecation : String → Option Bool) : Result Unit :=
  if !deprecated then
    if replacements.isEmpty then .ok ()
    else .error (.invalidReplacement kind id "replacement IDs given but not deprecated")
  else checkEach (fun r =>
    match deprecation r with
    | none => .error (.invalidReplacement kind id
        ("replacement " ++ quoted r ++ " is not a known " ++ kind.name))
    | some true => .error (.invalidReplacement kind id
        ("replacement " ++ quoted r ++ " is itself deprecated"))
    | some false => .ok ()) replacements

/-- The fault of a rule or category without a purpose. -/
def noPurpose (kind : IdKind) (id : String) : Fault :=
  .invalidSpec (kind.name ++ " " ++ quoted id ++ " has no purpose")

namespace Spec

/-- Whether the rule with an identifier is deprecated. -/
def ruleDeprecation (s : Spec) (id : String) : Option Bool :=
  (s.rules.find? fun r => r.id == id).map (·.deprecated)

/-- Whether the category with an identifier is deprecated. -/
def categoryDeprecation (s : Spec) (id : String) : Option Bool :=
  (s.categories.find? fun c => c.id == id).map (·.deprecated)

/-- Accepts a rule that has a purpose, names known categories once each, is not a default when it is
deprecated, and has proper replacements. -/
def checkRule (s : Spec) (r : RuleEntry) : Result Unit := do
  if r.purpose.isEmpty then throw (noPurpose .rule r.id)
  Identifier.requireUnique .category r.categoryIds
  checkEach (fun id =>
    if s.categoryIds.contains id then .ok () else .error (.danglingCategory r.id id)) r.categoryIds
  if r.deprecated && r.isDefault then
    throw (.invalidSpec ("rule " ++ quoted r.id ++ " is deprecated and cannot be default"))
  checkReplacements .rule r.id r.deprecated r.replacementIds s.ruleDeprecation

/-- Accepts a category that has a purpose and proper replacements. -/
def checkCategory (s : Spec) (c : Category) : Result Unit := do
  if c.purpose.isEmpty then throw (noPurpose .category c.id)
  checkReplacements .category c.id c.deprecated c.replacementIds s.categoryDeprecation

/-- Accepts the categories that some rule is in. -/
def checkReferenced (s : Spec) (c : Category) : Result Unit :=
  if s.rules.any fun r => r.categoryIds.contains c.id then .ok () else .error (.orphanCategory c.id)

/-- The first violation of a spec: no rules, malformed identifiers, repeated identifiers (of rules,
of categories, of both), then rule by rule, category by category, and categories without rules. -/
def validate (s : Spec) : Result Unit := do
  if s.rules.isEmpty then throw (.invalidSpec "spec has no rules")
  Identifier.checkAll .rule s.ruleIds
  Identifier.checkAll .category s.categoryIds
  Identifier.requireUnique .rule s.ruleIds
  Identifier.requireUnique .category s.categoryIds
  Identifier.requireUnique .ruleOrCategory (s.ruleIds ++ s.categoryIds)
  checkEach s.checkRule s.ruleEntries
  checkEach s.checkCategory s.categories
  checkEach s.checkReferenced s.categories

/-- Whether a spec has no violation. -/
def IsValid (s : Spec) : Prop := s.validate = .ok ()

end Spec

end SchemaCheck
