import SchemaCheck.Testing.Tools.Basic

/-!
# Reading line by line

Tools that go through their input line by line read it in large pieces, and keep what is left of a
piece for the next line. So one that ends early has read more than its lines.
-/

namespace SchemaCheck.Testing.Tools

open Host

/-- The lines of a text without their ends. -/
def bodies (cs : Chars) : List Chars := (Chars.lines cs).map Chars.body

/-- Lines with their ends. -/
def unlines (lines : List Chars) : Chars := lines.flatMap fun line => line ++ ['\n']

/-- What is read line by line: where it comes from, and what was read too far. -/
structure Source where
  descriptor : Nat
  ahead : Chars := []
  isAtEnd : Bool := false

namespace Source

/-- Reads on until a line is complete or nothing follows, in at most `fuel` pieces. -/
def fill : Nat → Source → Act (Except Refusal Source)
  | 0, s => return .ok s
  | fuel + 1, s => do
    if s.isAtEnd || s.ahead.contains '\n' then return .ok s
    else
      match ← Act.read s.descriptor Act.blockSize with
      | .error e => return .error e
      | .ok [] => return .ok { s with isAtEnd := true }
      | .ok cs => fill fuel { s with ahead := s.ahead ++ cs }

/-- Reads a line with its end, if it has one, and says where to read on; there is none at the end of
what there is. -/
def line (s : Source) : Act (Except Refusal (Option Chars × Source)) := do
  match ← s.fill Act.pieceLimit with
  | .error e => return .error e
  | .ok s =>
    match s.ahead.span (· != '\n') with
    | ([], []) => return .ok (none, s)
    | (line, []) => return .ok (some line, { s with ahead := [] })
    | (line, _ :: rest) => return .ok (some (line ++ ['\n']), { s with ahead := rest })

end Source

/-- Goes through the lines of a descriptor as they come, until the state says that no more are
needed. A step takes a line without its end, and gives what to write. -/
def throughLines {σ : Type} (c : Invocation) (descriptor : Nat) (step : σ → Chars → σ × Chars)
    (isDone : σ → Bool) (state : σ) : Act (Except Refusal σ) := do
  let pass (s : σ) (lines : List Chars) : σ × Chars :=
    let (s, out) := lines.foldl (fun (s, out) line =>
      if isDone s then (s, out)
      else
        let (s, shown) := step s line
        (s, shown :: out)) (s, [])
    (s, out.reverse.flatten)
  match ← stream c descriptor (fun (s, carried) cs =>
    match Chars.splitAt '\n' cs with
    | [] => ((s, carried), [], true)
    | [piece] => ((s, carried ++ piece), [], true)
    | piece :: pieces =>
      let (s, shown) := pass s ((carried ++ piece) :: pieces.dropLast)
      ((s, pieces.getLastD []), shown, !isDone s)) Act.pieceLimit (state, []) with
  | .error e => return .error e
  | .ok (s, carried) =>
    let (s, shown) := pass s (if carried.isEmpty then [] else [carried])
    c.put shown
    return .ok s

/-- Goes through the lines of inputs as they come. The state goes on from one input to the next; the
exit code says whether all could be read. -/
def eachLine {σ : Type} (c : Invocation) (paths : List Chars) (step : σ → Chars → σ × Chars)
    (state : σ) : Act (σ × Nat) := do
  let mut state := state
  let mut status := 0
  for path in orInput paths do
    match ← withInput path fun d => throughLines c d step (fun _ => false) state with
    | .ok s => state := s
    | .error e =>
      c.sayOf path e.text
      status := 1
  return (state, status)

end SchemaCheck.Testing.Tools
