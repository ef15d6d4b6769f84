import SchemaCheck.Client

/-!
# Several clients as one

A client over several clients, whose providers have different rules and categories. It lists what
all of them list, and shares out the rules of a check: each client is asked for those of its own
rules that are asked for, or for its default rules, and one without any is not asked. A single
client is passed every question as it stands.
-/

namespace SchemaCheck.CheckClient

variable {σ : Type}

/-- What each client lists, in order, up to the first that fails. -/
def listEach {α : Type} (list : CheckClient σ → Call σ (List α)) :
    List (CheckClient σ) → Call σ (List (List α))
  | [] => return []
  | d :: ds => do
    Call.check
    let as ← list d
    let rest ← listEach list ds
    return as :: rest

/-- The rules of a client that are to run: those that are asked for, or the default ones. -/
def share (requested : List String) (rules : List Rule) : List String :=
  (rules.filter fun r => if requested.isEmpty then r.isDefault else requested.contains r.id).map
    (·.id)

/-- Has each client check its share, and gives the findings of all. -/
def checkShares (r : Request) : List (CheckClient σ × List Rule) → Call σ (List Finding)
  | [] => return []
  | (d, rules) :: rest => do
    let ids := share r.ruleIds rules
    if ids.isEmpty then checkShares r rest
    else
      Call.check
      let request ← Call.ofResult (r.withRuleIds ids)
      let response ← d.check request
      let findings ← checkShares r rest
      return response.findings ++ findings

/-- Checks with two clients or more. -/
def checkAmong (ds : List (CheckClient σ)) (r : Request) : Call σ Response := do
  let lists ← listEach listRules ds
  let all ← Call.ofResult (Rule.sortUnique lists.flatten)
  match r.ruleIds.filter fun id => !all.any fun rule => rule.id == id with
  | [] =>
    let findings ← checkShares r (ds.zip lists)
    return Response.ofFindings findings
  | unknown => Call.fail (.unknownRules unknown)

/-- Several clients as one. -/
def multi (ds : List (CheckClient σ)) : CheckClient σ where
  check r :=
    match ds with
    | [] => return {}
    | [d] => d.check r
    | ds => checkAmong ds r
  listRules :=
    match ds with
    | [] => return []
    | [d] => d.listRules
    | ds => do
      let lists ← listEach listRules ds
      Call.ofResult (Rule.sortUnique lists.flatten)
  listCategories :=
    match ds with
    | [d] => d.listCategories
    | ds => do
      let lists ← listEach listCategories ds
      Call.ofResult (Category.sortUnique lists.flatten)

end SchemaCheck.CheckClient
