import SchemaCheck.Bytes
import SchemaCheck.Identifier

/-!
# Options

The options that a caller passes on to the rules: well-formed keys, each with a value that is not
empty. They are kept in the order of their keys, so that equal options are equal lists.
-/

namespace SchemaCheck

open Text (quoted)

/-- Options, in ascending order of keys. -/
structure Options where
  entries : List (String × Bytes) := []
  sorted : entries.Pairwise (fun a b => a.1 < b.1) := by simp
  valid : ∀ e ∈ entries, Identifier.isWellFormed .optionKey e.1 ∧ e.2 ≠ [] := by simp
  deriving DecidableEq

namespace Options

/-- No options. -/
def empty : Options := {}

/-- Adds an entry whose key is new. -/
def insert (o : Options) (k : String) (v : Bytes) (hk : Identifier.isWellFormed .optionKey k)
    (hv : v ≠ []) (hnew : ∀ e ∈ o.entries, e.1 ≠ k) : Options where
  entries := Text.insertKey k v o.entries
  sorted := Text.pairwise_insertKey o.sorted hnew
  valid e he := by
    rcases Text.mem_insertKey.1 he with rfl | he
    · exact ⟨hk, hv⟩
    · exact o.valid e he

/-- The fault of an empty value. -/
def emptyValue (key : String) : Fault :=
  .invalidOption ("value for key " ++ quoted key ++ " must not be empty")

/-- The fault of a key that is given again. -/
def duplicateKey (key : String) : Fault := .invalidOption ("duplicate key " ++ quoted key)

/-- Adds an entry, if its key is well-formed, its value is not empty and its key is new. -/
def insert? (o : Options) (key : String) (value : Bytes) : Result Options :=
  match h : Identifier.violation? .optionKey key with
  | some reason => .error (.invalidId .optionKey key reason)
  | none =>
    if hv : value = [] then .error (emptyValue key)
    else if hnew : ∀ e ∈ o.entries, e.1 ≠ key then
      .ok (o.insert key value (by simp [Identifier.isWellFormed, h]) hv hnew)
    else .error (duplicateKey key)

/-- Adds entries one by one, up to the first that is refused. -/
def insertAll (o : Options) : List (String × Bytes) → Result Options
  | [] => .ok o
  | (k, v) :: rest => do
    let o ← o.insert? k v
    o.insertAll rest

/-- The options with the given entries, or the fault of the first entry that is refused. -/
def ofPairs (pairs : List (String × Bytes)) : Result Options := insertAll {} pairs

/-- The value of a key. -/
def get? (o : Options) (key : String) : Option Bytes :=
  (o.entries.find? fun e => e.1 == key).map (·.2)

/-- The value of a key as text. -/
def getText? (o : Options) (key : String) : Result (Option String) :=
  match o.get? key with
  | none => .ok none
  | some value =>
    match value.toString? with
    | some s => .ok (some s)
    | none => .error (.invalidOption ("value for key " ++ quoted key ++ " is not valid UTF-8"))

/-- The value of a key as a truth value. -/
def getBool? (o : Options) (key : String) : Result (Option Bool) := do
  match ← o.getText? key with
  | none => .ok none
  | some "true" => .ok (some true)
  | some "false" => .ok (some false)
  | some other =>
    .error (.invalidOption ("value for key " ++ quoted key ++
      " must be \"true\" or \"false\", got " ++ quoted other))

/-- The keys, in ascending order. -/
def keys (o : Options) : List String := o.entries.map (·.1)

end Options

end SchemaCheck
