import SchemaCheck.Activity

/-!
# Schedules

Several activities that run side by side take their steps in some order. The order is not theirs to
choose, so it is data: a schedule lists whose turn it is. When the schedule is used up, those that
are not done are run to their ends one after another.
-/

namespace SchemaCheck.Activity

variable {ω ι σ α : Type}

/-- Takes steps by turns: the number in the schedule says who takes the next one. Items go to `take`
with the tag of the activity that hands them out. -/
def runTurns (take : ι → ω → σ → σ) :
    List Nat → List (ι × Activity ω α) → CallContext → σ →
      List (ι × Activity ω α) × CallContext × σ
  | [], as, c, s => (as, c, s)
  | turn :: turns, as, c, s =>
    match as[turn]? with
    | none => runTurns take turns as c s
    | some (tag, a) =>
      let (a, c, s) := a.step (take tag) c s
      runTurns take turns (as.set turn (tag, a)) c s

/-- Runs activities to their ends, one after another, whether or not some fail. -/
def runEach (take : ι → ω → σ → σ) :
    List (ι × Activity ω α) → CallContext → σ → List (Result α) × CallContext × σ
  | [], c, s => ([], c, s)
  | (tag, a) :: as, c, s =>
    let (r, c, s) := a.run (take tag) c s
    let (rs, c, s) := runEach take as c s
    (r :: rs, c, s)

/-- Runs activities one after another, up to the first that fails. -/
def runInOrder (take : ι → ω → σ → σ) :
    List (ι × Activity ω Unit) → CallContext → σ → Result Unit × CallContext × σ
  | [], c, s => (.ok (), c, s)
  | (tag, a) :: as, c, s =>
    match a.run (take tag) c s with
    | (.ok (), c, s) => runInOrder take as c s
    | (.error e, c, s) => (.error e, c, s)

/-- The first fault in a list of results. -/
def firstFault : List (Result Unit) → Result Unit
  | [] => .ok ()
  | .ok () :: rs => firstFault rs
  | .error e :: _ => .error e

/-- Runs all activities side by side, to the turns of a schedule; the fault of the first in the list
that fails is the fault of all. -/
def runSideBySide (take : ι → ω → σ → σ) (schedule : List Nat) (as : List (ι × Activity ω Unit))
    (c : CallContext) (s : σ) : Result Unit × CallContext × σ :=
  let (as, c, s) := runTurns take schedule as c s
  let (rs, c, s) := runEach take as c s
  (firstFault rs, c, s)

end SchemaCheck.Activity
