import SchemaCheck.Transport

/-!
# Clients

A client asks one provider over a transport. It drains listings page by page, and may remember what
came of the first listing of a kind, a fault as well as a list. It sends a check as one or more
messages, and gives all findings of all answers or none.

`CheckClient` is what all clients offer, and `Client.checkClient` a client as one of them.
-/

namespace SchemaCheck

/-- What clients offer: to check, and to list rules and categories. -/
structure CheckClient (σ : Type) where
  check : Request → Call σ Response
  listRules : Call σ (List Rule)
  listCategories : Call σ (List Category)

/-- A client whose state is a part of a larger one. -/
def CheckClient.within {σ β : Type} (slot : Slot σ β) (c : CheckClient β) : CheckClient σ where
  check r := (c.check r).within slot
  listRules := c.listRules.within slot
  listCategories := c.listCategories.within slot

/-- What a client remembers of its listings: nothing, or what came of each. -/
structure ListingCache where
  rules : Option (Result (List Rule)) := none
  categories : Option (Result (List Category)) := none

/-- The state of a client and of its transport. -/
structure ClientState (τ : Type) where
  cache : ListingCache := {}
  link : τ

namespace ClientState

variable {τ : Type}

/-- The transport's part of the state. -/
def linkSlot : Slot (ClientState τ) τ := ⟨link, fun l s => { s with link := l }⟩

/-- What is remembered of the rules. -/
def rulesSlot : Slot (ClientState τ) (Option (Result (List Rule))) :=
  ⟨fun s => s.cache.rules, fun r s => { s with cache := { s.cache with rules := r } }⟩

/-- What is remembered of the categories. -/
def categoriesSlot : Slot (ClientState τ) (Option (Result (List Category))) :=
  ⟨fun s => s.cache.categories, fun r s => { s with cache := { s.cache with categories := r } }⟩

end ClientState

/-- How a client deals with listings. -/
structure ClientOptions where
  /-- Remember what came of the first listing of a kind. -/
  cache : Bool := false
  /-- Forget the failures. -/
  retryFailed : Bool := false
  deriving DecidableEq, Repr

/-- A client of one provider. -/
structure Client (τ : Type) where
  transport : Transport τ
  options : ClientOptions := {}
  /-- The greatest number of pages that a listing may take before it is given up. -/
  maxPages : Nat := 1000000

namespace Client

variable {τ α β : Type}

/-- The size of the pages that a client asks for. -/
def pageSize : UInt32 := 250

/-- Asks for one thing: sends a message and reads the answer. -/
def ask (c : Client τ) (m : Method) (request : Codec α) (reply : Codec β) (message : α) :
    Call (ClientState τ) β := do
  Call.check
  let bytes ← (c.transport.send m (request.toBytes message)).within ClientState.linkSlot
  Call.ofResult (reply.ofBytes bytes)

/-- The entries of a page and of all that follow it, as long as the pages are no more than a number
of them. -/
def drain {σ : Type} (fetch : String → Call σ (PageReply α)) : Nat → String → Call σ (List α)
  | 0, _ => Call.giveUp
  | n + 1, token => do
    let page ← fetch token
    if page.nextPageToken.isEmpty then return page.entries
    else
      let rest ← drain fetch n page.nextPageToken
      return page.entries ++ rest

/-- What an entry of the cache answers: a fault as one that was remembered. -/
def remembered (entry : Result (List α)) : Result (List α) :=
  match entry with
  | .ok as => .ok as
  | .error e => .error (.shared e)

/-- A listing that is remembered in a slot, as far as the client is to remember it. -/
def cached (c : Client τ) (slot : Slot (ClientState τ) (Option (Result (List α))))
    (fetch : Call (ClientState τ) (List α)) : Call (ClientState τ) (List α) :=
  if !c.options.cache then fetch
  else Call.mk fun s =>
    match slot.get s.state with
    | some entry => (Call.lift (remembered entry), s)
    | none =>
      match fetch.runIn s with
      | (.ok as, s) => (.ok as, { s with state := slot.put (some (.ok as)) s.state })
      | (.error (.fault e), s) =>
        if c.options.retryFailed then (.error (.fault e), s)
        else (.error (.fault (.shared e)),
          { s with state := slot.put (some (.error e)) s.state })
      | (.error .unfinished, s) => (.error .unfinished, s)

/-- Fetches all categories from the provider. -/
def fetchCategories (c : Client τ) : Call (ClientState τ) (List Category) := do
  let entries ← drain (fun token =>
    c.ask .listCategories PageMessage.codec categoriesReplyCodec ⟨pageSize, token⟩) c.maxPages ""
  Call.ofResult (Category.sortUnique entries)

/-- All categories, in the order of their identifiers. -/
def listCategories (c : Client τ) : Call (ClientState τ) (List Category) :=
  c.cached ClientState.categoriesSlot c.fetchCategories

/-- Fetches all rules from the provider, and lists the categories that they are in. -/
def fetchRules (c : Client τ) : Call (ClientState τ) (List Rule) := do
  let entries ← drain (fun token =>
    c.ask .listRules PageMessage.codec rulesReplyCodec ⟨pageSize, token⟩) c.maxPages ""
  let categories ← c.listCategories
  Call.ofResult do
    let rules ← Rule.ofEntries categories entries
    Rule.sortUnique rules

/-- All rules, in the order of their identifiers. -/
def listRules (c : Client τ) : Call (ClientState τ) (List Rule) :=
  c.cached ClientState.rulesSlot c.fetchRules

/-- A collector with the findings that were sent. -/
def collectEntries (c : Collector) (es : List FindingEntry) : Collector :=
  es.foldl (fun c e => c.add e.ruleId (Draft.ofEntry e)) c

/-- Sends messages one after another, and collects the findings of the answers. -/
def sendAll (c : Client τ) (collector : Collector) :
    List CheckMessage → Call (ClientState τ) Collector
  | [] => return collector
  | m :: ms => do
    let reply ← c.ask .check CheckMessage.codec CheckReply.codec m
    c.sendAll (collectEntries collector reply.findings) ms

/-- Checks: all findings of all answers, or the first fault. -/
def check (c : Client τ) (r : Request) : Call (ClientState τ) Response := do
  let collector ← c.sendAll (Collector.ofRequest r) r.messages
  Call.ofResult collector.finish.1

/-- The client as one among others. -/
def checkClient (c : Client τ) : CheckClient (ClientState τ) :=
  ⟨c.check, c.listRules, c.listCategories⟩

/-- The client of a provider in the same program. -/
def ofProvider (p : Provider) (options : ClientOptions := {}) : Client τ :=
  { transport := Transport.ofProvider p, options }

end Client

end SchemaCheck
