import SchemaCheck.Config
import SchemaCheck.Request
import SchemaCheck.Rule

/-!
# Selecting rules

Which of the rules that a provider lists a configuration selects, and the request that comes of it.
A category stands for its rules, a deprecated rule or category for its replacements, and what is to
be left out is left out in any case.
-/

namespace SchemaCheck.Config

/-- The rules of a category; deprecated ones only when they are asked for. -/
def membersOf (rules : List Rule) (category : String) (withDeprecated : Bool) : List String :=
  (rules.filter fun r =>
    r.categoryIds.contains category && (withDeprecated || !r.deprecated)).map (·.id)

/-- The fault of naming what is neither a rule nor a category. -/
def unknownId (id : String) : Fault := .config ("Unknown rule or category ID '" ++ id ++ "'")

/-- The rules that an entry of `use` selects. -/
def expandUse (rules : List Rule) (categories : List Category) (id : String) :
    Result (List String) :=
  match rules.find? fun r => r.id == id with
  | some r => .ok (if r.deprecated && !r.replacementIds.isEmpty then r.replacementIds else [id])
  | none =>
    match categories.find? fun c => c.id == id with
    | some c =>
      .ok (if c.deprecated && !c.replacementIds.isEmpty then
          c.replacementIds.flatMap fun replacement => membersOf rules replacement false
        else membersOf rules id false)
    | none => .error (unknownId id)

/-- The rules that an entry of `except` leaves out. -/
def expandExcept (rules : List Rule) (categories : List Category) (id : String) :
    Result (List String) :=
  if rules.any fun r => r.id == id then .ok [id]
  else if categories.any fun c => c.id == id then .ok (membersOf rules id true)
  else .error (unknownId id)

/-- The rules that all entries of a list stand for, or the first fault. -/
def expandAll (expand : String → Result (List String)) : List String → Result (List String)
  | [] => .ok []
  | id :: ids => do
    let here ← expand id
    let rest ← expandAll expand ids
    return here ++ rest

/-- The rules that a configuration selects, in ascending order. -/
def selectRules (c : Config) (rules : List Rule) (categories : List Category) :
    Result (List String) := do
  let used ←
    if c.use.isEmpty then .ok ((rules.filter (·.isDefault)).map (·.id))
    else expandAll (expandUse rules categories) c.use
  let removed ← expandAll (expandExcept rules categories) c.except
  return (Text.sortedUnique used).filter fun id => !removed.contains id

/-- The options of a configuration. -/
def toOptions (c : Config) : Result Options :=
  Options.ofPairs (c.options.map fun o => (o.1, Bytes.ofString o.2))

/-- The request that a configuration makes of files. A configuration that selects nothing makes
none, for a request without rules would run the defaults. -/
def request (c : Config) (files againstFiles : List SchemaFile) (rules : List Rule)
    (categories : List Category) : Result Request := do
  let ids ← c.selectRules rules categories
  if ids.isEmpty then throw (.config "Configuration selects no rules")
  let options ← c.toOptions
  RequestBuilder.build { files, againstFiles, options, ruleIds := ids }

end SchemaCheck.Config
