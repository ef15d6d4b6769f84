import SchemaCheck.Identifier

/-!
# Rules and categories

What a provider tells about its rules and categories. An entry names the categories of a rule; a
listed rule holds the categories themselves.
-/

namespace SchemaCheck

/-- What a rule looks at. -/
inductive RuleType where
  /-- One version of the files. -/
  | lint
  /-- The files and their former version. -/
  | breaking
  deriving DecidableEq, Repr

/-- The name of a type of rules. -/
def RuleType.name : RuleType → String
  | lint => "lint"
  | breaking => "breaking"

/-- A category of rules. -/
structure Category where
  id : String
  purpose : String
  deprecated : Bool := false
  replacementIds : List String := []
  deriving DecidableEq, Repr

/-- A rule as a provider describes it. -/
structure RuleEntry where
  id : String
  categoryIds : List String := []
  /-- Whether the rule runs when a request names none. -/
  isDefault : Bool := false
  purpose : String
  type : RuleType
  deprecated : Bool := false
  replacementIds : List String := []
  deriving DecidableEq, Repr

/-- A rule as a caller sees it, with its categories. -/
structure Rule where
  id : String
  categories : List Category
  isDefault : Bool
  purpose : String
  type : RuleType
  deprecated : Bool
  replacementIds : List String
  deriving DecidableEq, Repr

namespace Rule

/-- The identifiers of the categories of a rule. -/
def categoryIds (r : Rule) : List String := r.categories.map (·.id)

/-- The categories with the given identifiers, for a rule that names them. -/
def findCategories (ruleId : String) (known : List Category) : List String → Result (List Category)
  | [] => .ok []
  | id :: ids =>
    match known.find? fun c => c.id == id with
    | none => .error (.danglingCategory ruleId id)
    | some c => do
      let cs ← findCategories ruleId known ids
      return c :: cs

/-- The rule that an entry describes, among known categories. -/
def ofEntry (e : RuleEntry) (known : List Category) : Result Rule := do
  let categories ← findCategories e.id known e.categoryIds
  return ⟨e.id, categories, e.isDefault, e.purpose, e.type, e.deprecated, e.replacementIds⟩

/-- The rules that entries describe, or the fault of the first that names an unknown category. -/
def ofEntries (known : List Category) : List RuleEntry → Result (List Rule)
  | [] => .ok []
  | e :: es => do
    let r ← ofEntry e known
    let rs ← ofEntries known es
    return r :: rs

/-- Rules in the order of their identifiers, provided that these are all different. -/
def sortUnique (rs : List Rule) : Result (List Rule) := do
  Identifier.requireUnique .rule (rs.map (·.id))
  return rs.mergeSort fun a b => a.id ≤ b.id

end Rule

/-- Categories in the order of their identifiers, provided that these are all different. -/
def Category.sortUnique (cs : List Category) : Result (List Category) := do
  Identifier.requireUnique .category (cs.map (·.id))
  return cs.mergeSort fun a b => a.id ≤ b.id

end SchemaCheck
