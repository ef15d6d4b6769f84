import SchemaCheck.Activity.Schedule
import SchemaCheck.Message.Check
import SchemaCheck.Message.Listing
import SchemaCheck.Message.Method
import SchemaCheck.Spec.Validation

/-!
# Providers

A provider serves a valid spec: it runs the rules that a request names, or the default rules, and
lists its rules and categories page by page in the order of their identifiers. The token of a page
is the identifier of its first entry.
-/

namespace SchemaCheck

/-- A computation inside one call: it may fail, and its context evolves. -/
abbrev Served := ExceptT Fault (StateM CallContext)

namespace Served

/-- A result that does not depend on the context. -/
def ofResult {α : Type} (r : Result α) : Served α := ExceptT.mk (pure r)

/-- Fails if the call was cancelled or its deadline has come. -/
def check : Served Unit := ExceptT.mk fun c => (c.check, c)

end Served

/-- How the rules of one check are run. -/
inductive Execution where
  /-- One after another, up to the first that fails. -/
  | inOrder
  /-- All side by side. Whose step is next is not for the provider to say; the schedule says it. -/
  | sideBySide (schedule : List Nat)
  deriving DecidableEq, Repr

/-- A provider of checks. -/
structure Provider where
  spec : Spec
  valid : spec.IsValid
  execution : Execution := .inOrder

namespace Provider

/-- The provider for a spec, if the spec is valid. -/
def ofSpec (s : Spec) (execution : Execution := .inOrder) : Result Provider :=
  match h : s.validate with
  | .ok () => .ok ⟨s, h, execution⟩
  | .error e => .error e

/-- The rules that run for the rules named in a request, as declared: those rules, or the default
ones when none is named. -/
def select (p : Provider) (ids : List String) : Result (List RuleSpec) :=
  if ids.isEmpty then .ok (p.spec.rules.filter (·.isDefault))
  else
    match ids.filter fun id => !p.spec.ruleIds.contains id with
    | [] => .ok (p.spec.rules.filter fun r => ids.contains r.id)
    | unknown => .error (.unknownRules unknown)

/-- The request that the rules see. -/
def prepare (p : Provider) (r : Request) : Served Request :=
  match p.spec.before with
  | none => pure r
  | some hook => ExceptT.mk fun c =>
    let (result, c, ()) := (hook r).run (fun _ u => u) c ()
    (result, c)

/-- What a rule does in a check: nothing, if the call is over by then. -/
def activity (r : Request) (rule : RuleSpec) : String × Activity Draft Unit :=
  (rule.id, do Activity.check; rule.handler rule.id r)

/-- Takes a draft of a rule into a collector. -/
def collect (ruleId : String) (d : Draft) (c : Collector) : Collector := c.add ruleId d

/-- Runs rules on a request, and gives their findings. -/
def runRules (p : Provider) (r : Request) (rules : List RuleSpec) : Served Response :=
  ExceptT.mk fun c =>
    let activities := rules.map (activity r)
    let run := match p.execution with
      | .inOrder => Activity.runInOrder collect activities
      | .sideBySide schedule => Activity.runSideBySide collect schedule activities
    match run c (Collector.ofRequest r) with
    | (.error e, c, _) => (.error e, c)
    | (.ok (), c, collector) => (collector.finish.1, c)

/-- Serves a check. The rules are chosen by the request as it came, and run on the request that the
hook makes of it. -/
def check (p : Provider) (m : CheckMessage) : Served CheckReply := do
  Served.check
  let request ← Served.ofResult (Request.ofMessage m)
  let rules ← Served.ofResult (p.select request.ruleIds)
  let request ← p.prepare request
  let response ← p.runRules request rules
  return response.reply

/-- The size of a page when the request leaves it to the provider. -/
def defaultPageSize : Nat := 250

/-- The page of a listing that a request asks for; `listing` has its keys in ascending order. -/
def page {α : Type} (key : α → String) (listing : List α) (m : PageMessage) :
    Result (PageReply α) := do
  let rest ←
    if m.pageToken.isEmpty then .ok listing
    else
      match listing.dropWhile fun a => key a != m.pageToken with
      | [] => .error (.invalidArgument ("unknown page token: " ++ Text.quoted m.pageToken))
      | rest => .ok rest
  let size := if m.pageSize = 0 then defaultPageSize else m.pageSize.toNat
  return { nextPageToken := ((rest.drop size).head?.map key).getD "", entries := rest.take size }

/-- The rules, in the order of their identifiers. -/
def ruleListing (p : Provider) : List RuleEntry :=
  p.spec.ruleEntries.mergeSort fun a b => a.id ≤ b.id

/-- The categories, in the order of their identifiers. -/
def categoryListing (p : Provider) : List Category :=
  p.spec.categories.mergeSort fun a b => a.id ≤ b.id

/-- Serves a page of rules. -/
def listRules (p : Provider) (m : PageMessage) : Served RulesReply := do
  Served.check
  Served.ofResult (page (·.id) p.ruleListing m)

/-- Serves a page of categories. -/
def listCategories (p : Provider) (m : PageMessage) : Served CategoriesReply := do
  Served.check
  Served.ofResult (page (·.id) p.categoryListing m)

/-- Serves a method: reads the request from bytes and writes the answer as bytes. -/
def handle (p : Provider) (method : Method) (request : Bytes) : Served Bytes :=
  match method with
  | .check => do
    let m ← Served.ofResult (CheckMessage.codec.ofBytes request)
    return CheckReply.codec.toBytes (← p.check m)
  | .listRules => do
    let m ← Served.ofResult (PageMessage.codec.ofBytes request)
    return rulesReplyCodec.toBytes (← p.listRules m)
  | .listCategories => do
    let m ← Served.ofResult (PageMessage.codec.ofBytes request)
    return categoriesReplyCodec.toBytes (← p.listCategories m)

/-- Serves the method with the given name. -/
def handleProcedure (p : Provider) (procedure : String) (request : Bytes) : Served Bytes := do
  let method ← Served.ofResult (Method.ofProcedure? procedure)
  p.handle method request

end Provider

end SchemaCheck
