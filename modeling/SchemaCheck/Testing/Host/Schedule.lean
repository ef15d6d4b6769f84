import SchemaCheck.Testing.Host.Process

/-!
# Running processes side by side

Processes take turns: the one whose time is the earliest takes its next step, and a step takes a
little time. One that waits goes on a moment after the world is ready for it. A run is bounded by a
number of steps, which one that is meant to end does not use up.
-/

namespace SchemaCheck.Testing.Host

/-- A process with the number of its task, and when it can go on after it waited. -/
structure Running where
  number : Nat
  process : Process
  ready : Option Nat := none

/-- How long a step takes. -/
def stepTime : Nat := 2

/-- How long it takes to go on after waiting. -/
def wakeTime : Nat := 50

/-- How long a task is busy with starting another. -/
def forkTime : Nat := 100

/-- How long it takes until a task that was started begins. -/
def birthTime : Nat := 200

/-- The processes whose tasks no signal has ended. -/
def survivors (w : World) (rs : List Running) : World × List Running :=
  rs.foldr (fun r (w, rs) =>
    match w.fatal? r.number with
    | some signal => (w.finish r.number (.killed signal), rs)
    | none => (w, r :: rs)) (w, [])

/-- Notes when a process that waits can go on. -/
def Running.refreshed (w : World) (r : Running) : Running :=
  match r.process with
  | .waiting isReady _ =>
    if isReady { w with current := r.number } then
      match r.ready with
      | some _ => r
      | none =>
        let time := ((w.task? r.number).map Task.time).getD 0
        { r with ready := some (if time ≥ w.now then time else w.now + wakeTime) }
    else { r with ready := none }
  | _ => { r with ready := ((w.task? r.number).map Task.time) }

/-- The process that goes on first, and the others. -/
def earliest : List Running → Option (Running × Nat × List Running)
  | [] => none
  | r :: rs =>
    match r.ready, earliest rs with
    | none, none => none
    | none, some (s, t, others) => some (s, t, r :: others)
    | some t, none => some (r, t, rs)
    | some t, some (s, u, others) => if t ≤ u then some (r, t, rs) else some (s, u, r :: others)

/-- One step of a process, and the processes that it becomes. -/
def Running.advance (w : World) (r : Running) : World × List Running :=
  let spent (w : World) (duration : Nat) : World :=
    w.modifySelf fun t => { t with time := t.time + duration }
  let go (p : Process) : World × List Running :=
    match p with
    | .ended => (w, [])
    | .step act =>
      let (w, p) := act w
      (spent w stepTime, [{ number := r.number, process := p }])
    | .waiting isReady p => (w, [{ number := r.number, process := .waiting isReady p }])
    | .fork child next =>
      let (w, n) := w.fork birthTime
      (spent w forkTime,
        [{ number := r.number, process := next n }, { number := n, process := child }])
  match r.process with
  | .waiting _ p => go p
  | p => go p

/-- Runs processes until none can go on or the world is done, in at most so many steps. -/
def simulate (isDone : World → Bool) : Nat → World → List Running → World
  | 0, w, _ => w
  | fuel + 1, w, rs =>
    if isDone w then w
    else
      let (w, rs) := survivors w rs
      match earliest (rs.map (Running.refreshed w)) with
      | none => w
      | some (r, time, others) =>
        let now := max w.now time
        let w := { w with current := r.number, now }
        let w := w.modifySelf fun t => { t with time := now }
        let (w, rs) := r.advance w
        simulate isDone fuel w (rs ++ others)

end SchemaCheck.Testing.Host
