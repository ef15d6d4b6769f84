import SchemaCheck.Client.Multi

/-!
# Clients for tests

Clients over transports that are put together for a test: one that answers from a script, and one
that keeps a record of what is sent over another and lets single calls fail. A fleet is a client, or
several as one; all its clients write to one record.
-/

namespace SchemaCheck.Testing

/-- An answer of a script. -/
structure ScriptedAnswer where
  result : Result Bytes
  /-- Whether the call is cancelled first. -/
  cancels : Bool := false

/-- The answers that are left, for each method. -/
abbrev Script := Method → List ScriptedAnswer

/-- A transport that gives one answer after another, and then none. -/
def scripted : Transport Script := fun m _ _ s =>
  match s m with
  | [] => { result := .error (.remote .internal "script exhausted"), state := s }
  | a :: rest =>
    { result := a.result, state := fun n => if n = m then rest else s n, cancels := a.cancels }

/-- A call in the record: which client made it, and what it sent. -/
structure Recorded where
  client : String
  method : Method
  request : Bytes

/-- The state of a recorded transport: the number of calls so far, the script of the transport
underneath, and the record that all clients of a fleet write to. -/
structure Link where
  calls : Nat := 0
  script : Script
  log : List Recorded := []

/-- A transport that records its calls under a name, and lets some of them fail. -/
def recorded (client : String) (failing : List Nat) (t : Transport Script) : Transport Link :=
  fun m request c s =>
    let next := { s with calls := s.calls + 1, log := s.log ++ [⟨client, m, request⟩] }
    if failing.contains s.calls then
      { result := .error (.remote .internal ("call " ++ toString s.calls ++ " failed"))
        state := next }
    else
      let a := t m request c s.script
      { result := a.result, state := { next with script := a.state }, cancels := a.cancels,
        time := a.time }

/-- A client of a fleet. -/
structure Peer where
  transport : Transport Script
  script : Script := fun _ => []
  failing : List Nat := []
  options : ClientOptions := {}

/-- A client, or several as one. -/
inductive Fleet where
  | single (m : Peer)
  | multi (fleets : List Fleet)

instance : Inhabited Fleet := ⟨.multi []⟩

/-- What the clients of a fleet remember, in the order in which they stand in it, and their
record. -/
structure FleetState where
  peers : List (ListingCache × Nat × Script)
  log : List Recorded := []

/-- The state of the client at an index. -/
def FleetState.slot (i : Nat) : Slot FleetState (ClientState Link) where
  get s :=
    match s.peers[i]? with
    | some (cache, calls, script) => ⟨cache, ⟨calls, script, s.log⟩⟩
    | none => ⟨{}, { script := fun _ => [], log := s.log }⟩
  put c s := {
    peers := s.peers.set i (c.cache, c.link.calls, c.link.script)
    log := c.link.log }

namespace Fleet

mutual

/-- The clients of a fleet, in order. -/
def peers : Fleet → List Peer
  | single m => [m]
  | multi fs => peersOfAll fs

/-- The clients of several fleets, in order. -/
def peersOfAll : List Fleet → List Peer
  | [] => []
  | f :: fs => f.peers ++ peersOfAll fs

end

/-- The transport of a client, recorded under its name. -/
def transport (name : String) (m : Peer) : Transport Link := recorded name m.failing m.transport

/-- A client of a fleet, with its name and its place in the state. -/
def peerClient (name : String) (i : Nat) (m : Peer) : CheckClient FleetState :=
  CheckClient.within (FleetState.slot i)
    (Client.checkClient { transport := transport name m, options := m.options })

mutual

/-- The client that a fleet is. Its own name is `name`, and `i` is where its state starts. -/
def client (name : String) (i : Nat) : Fleet → CheckClient FleetState
  | single m => peerClient name i m
  | multi fs => CheckClient.multi (clients name i 0 fs)

/-- The clients that fleets are, the first of which is number `n` of those named `name`. -/
def clients (name : String) (i n : Nat) : List Fleet → List (CheckClient FleetState)
  | [] => []
  | f :: fs =>
    f.client (name ++ toString n) i :: clients name (i + f.peers.length) (n + 1) fs

end

/-- The state of a fleet before anything happened. -/
def start (f : Fleet) : FleetState := { peers := f.peers.map fun m => ({}, 0, m.script) }

/-- Sends a request over the transport of a fleet that is a single client. -/
def send (m : Peer) (method : Method) (request : Bytes) : Call FleetState Bytes :=
  Call.within (FleetState.slot 0) <|
    Call.within ClientState.linkSlot ((transport "" m).send method request)

end Fleet

end SchemaCheck.Testing
