import SchemaCheck.Demo

/-!
# Rules for tests

Rules and hooks that are put together from actions, so that a test can say what a provider does:
hand in a finding, walk over the request and report what is there, show options, fail, or cancel the
call.
-/

namespace SchemaCheck.Testing

/-- When a walk does something out of the ordinary: at the things with these names. -/
structure Trigger where
  failAt : Option String := none
  cancelAt : Option String := none
  deriving DecidableEq, Repr

/-- Hands in a draft about a thing, after what its name triggers. -/
def Trigger.report (t : Trigger) (name : String) (d : Draft) : Activity Draft Unit := do
  if t.failAt = some name then .fail (.handler ("failed at " ++ name))
  if t.cancelAt = some name then .cancelCall
  .give d

/-- What a rule does. -/
inductive Action where
  | report (d : Draft)
  | files (t : Trigger)
  | messages (t : Trigger)
  | fields (t : Trigger)
  /-- Reports each former file; with `current`, at the file of the same name. -/
  | againstFiles (current : Bool)
  | optionText (key : String)
  | optionFlag (key : String)
  /-- Reports the rules that the request names. -/
  | ruleIds
  | raise (e : Fault)
  | cancel
  | check
  deriving Repr

/-- The text of a truth value. -/
def flagText (b : Bool) : String := if b then "true" else "false"

/-- What an action does for the rule `id` on a request. -/
def Action.activity (id : String) (r : Request) : Action → Activity Draft Unit
  | report d => .give d
  | files t => walkFiles (fun f => t.report f.name {
      message := "file " ++ f.name ++ " of " ++ toString r.files.length
      current := f.target }) r.files
  | messages t => walkMessages (fun m => t.report m.fullName {
      message := "message " ++ m.fullName ++ " (" ++ m.name ++ ") in " ++ m.file.name ++ " with " ++
        toString m.fields.length ++ " fields"
      current := m.target }) r.files
  | fields t => walkFields (fun f => t.report f.fullName {
      message := "field " ++ f.fullName ++ " (" ++ f.name ++ ") = " ++
        toString f.field.number.toInt ++ " type " ++ f.messageType.getD "-" ++ " in " ++ f.file.name
      current := f.target }) r.files
  | againstFiles current => Activity.forEach (fun f => .give {
      message := "against " ++ f.name
      current := if current then { fileName := some f.name } else {}
      against := f.target }) r.againstFiles
  | optionText key => do
    match ← .ofResult (r.options.getText? key) with
    | none => .give { message := "none" }
    | some s => .give { message := "str " ++ s }
  | optionFlag key => do
    match ← .ofResult (r.options.getBool? key) with
    | none => .give { message := "none" }
    | some b => .give { message := "bool " ++ flagText b }
  | ruleIds => .give { message := id ++ " sees " ++ ",".intercalate r.ruleIds }
  | raise e => .fail e
  | cancel => .cancelCall
  | check => .check

/-- A rule that does one action after another, up to the first that fails. -/
def handlerOf (actions : List Action) : Handler :=
  fun id r => Activity.forEach (Action.activity id r) actions

/-- What a hook does. -/
inductive HookAction where
  | raise (e : Fault)
  | cancel
  /-- Names other rules. -/
  | ruleIds (ids : List String)
  /-- Adds options. -/
  | options (pairs : List (String × Bytes))
  /-- Puts other files in place of those of the request. -/
  | files (fs : List SchemaFile)

/-- What an action of a hook makes of a request. -/
def HookAction.activity (r : Request) : HookAction → Activity Empty Request
  | raise e => .fail e
  | cancel => do
    .cancelCall
    return r
  | ruleIds ids => .ofResult (r.withRuleIds ids)
  | options pairs => .ofResult (RequestBuilder.build {
      files := r.files, againstFiles := r.againstFiles, options := r.options, pairs,
      ruleIds := r.ruleIds })
  | files fs => .ofResult (RequestBuilder.build {
      files := fs, againstFiles := r.againstFiles, options := r.options, ruleIds := r.ruleIds })

/-- A hook that does one action after another, each on the request that the one before it made. -/
def hookOf (actions : List HookAction) : BeforeHook :=
  fun r => actions.foldlM HookAction.activity r

end SchemaCheck.Testing
