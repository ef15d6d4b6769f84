import SchemaCheck.Fault
import SchemaCheck.Json.Printer
import SchemaCheck.Json.Parser

/-!
# Codecs

A codec writes the values of a type as JSON and reads them back. Messages are records: a record
lists its members once, and that list serves writing and reading both. A record is read from an
object in any order of members, or from an array of its members in the order of the list; members
that the record does not know are passed over. Reading is given a budget of nested arrays and
objects.
-/

namespace SchemaCheck

/-- How values of a type are written as JSON and read back. `decode budget j` may enter `budget`
arrays and objects nested in one another. -/
structure Codec (α : Type) where
  encode : α → Json
  decode : Nat → Json → Option α

/-- A member of a record. -/
structure Member (α : Type) where
  name : String
  codec : Codec α
  /-- The value when the member is left out; a member without one must be given. -/
  default? : Option α := none
  /-- The values that are not written. -/
  isOmitted : α → Bool := fun _ => false

/-- The members of a record, in order; `α` is the type of their values together. -/
inductive Members : Type → Type 1 where
  | nil : Members Unit
  | cons {α β : Type} (member : Member α) (rest : Members β) : Members (α × β)

namespace Members

/-- The members of an object, as they are written. -/
def encode : {α : Type} → Members α → α → List (String × Json)
  | _, .nil, () => []
  | _, .cons m rest, (a, b) =>
    if m.isOmitted a then rest.encode b else (m.name, m.codec.encode a) :: rest.encode b

/-- The values of the members in an object: a member that is left out has its default, one that is
given twice is refused. -/
def ofObject (budget : Nat) (given : List (Bytes × Json)) : {α : Type} → Members α → Option α
  | _, .nil => some ()
  | _, .cons m rest => do
    let a ← match given.filter (fun g => g.1 == Bytes.ofString m.name) with
      | [] => m.default?
      | [(_, j)] => m.codec.decode budget j
      | _ => none
    let b ← ofObject budget given rest
    some (a, b)

/-- The values of the members in an array, which may stop early before members with defaults. -/
def ofArray (budget : Nat) : {α : Type} → Members α → List Json → Option α
  | _, .nil, [] => some ()
  | _, .nil, _ :: _ => none
  | _, .cons m rest, [] => do
    let a ← m.default?
    let b ← ofArray budget rest []
    some (a, b)
  | _, .cons m rest, j :: js => do
    let a ← m.codec.decode budget j
    let b ← ofArray budget rest js
    some (a, b)

end Members

namespace Codec

/-- Text. -/
def string : Codec String where
  encode := Json.text
  decode _
    | .string content => content.toString?
    | _ => none

/-- Truth values. -/
def bool : Codec Bool where
  encode := .bool
  decode _
    | .bool b => some b
    | _ => none

/-- Numbers of a fixed width: `toInt` gives the number, `ofInt?` refuses those out of range. -/
def number {α : Type} (toInt : α → Int) (ofInt? : Int → Option α) : Codec α where
  encode a := .integer (toInt a)
  decode _
    | .integer i => ofInt? i
    | _ => none

/-- Signed words of 32 bits. -/
def int32 : Codec Int32 :=
  number Int32.toInt fun i =>
    if Int32.minValue.toInt ≤ i ∧ i ≤ Int32.maxValue.toInt then some (Int32.ofInt i) else none

/-- Unsigned words of 32 bits. -/
def uint32 : Codec UInt32 :=
  number (fun n => n.toNat) fun i =>
    if 0 ≤ i ∧ i < UInt32.size then some (UInt32.ofNat i.toNat) else none

/-- Bytes. -/
def byte : Codec UInt8 :=
  number (fun n => n.toNat) fun i =>
    if 0 ≤ i ∧ i < UInt8.size then some (UInt8.ofNat i.toNat) else none

/-- Any value as it stands. -/
def raw : Codec Json where
  encode := id
  decode _ j := some j

/-- A value or null. -/
def optional {α : Type} (c : Codec α) : Codec (Option α) where
  encode
    | none => .null
    | some a => c.encode a
  decode budget
    | .null => some none
    | j => (c.decode budget j).map some

/-- Lists, as arrays. -/
def list {α : Type} (c : Codec α) : Codec (List α) where
  encode as := .array (as.map c.encode)
  decode
    | budget + 1, .array js => js.mapM (c.decode budget)
    | _, _ => none

/-- The values of an enumeration, by name. A name may also be given as the only member of an object
whose value is null. -/
def enumeration {α : Type} (all : List α) (name : α → String) : Codec α where
  encode a := Json.text (name a)
  decode
    | _, .string content => all.find? fun a => Bytes.ofString (name a) == content
    | _ + 1, .object [(content, .null)] => all.find? fun a => Bytes.ofString (name a) == content
    | _, _ => none

/-- Records, by their members. The names of all members in an object must be text, those of unknown
members too. -/
def record {α β : Type} (members : Members β) (build : β → α) (parts : α → β) : Codec α where
  encode a := Json.ofMembers (members.encode (parts a))
  decode
    | budget + 1, .object given =>
      if given.all fun g => g.1.toString?.isSome then (members.ofObject budget given).map build
      else none
    | budget + 1, .array js => (members.ofArray budget js).map build
    | _, _ => none

/-- The deepest nesting of arrays and objects in a message that is read. -/
def maxDepth : Nat := 127

/-- A message in bytes. -/
def toBytes {α : Type} (c : Codec α) (a : α) : Bytes := (c.encode a).print

/-- The message that bytes hold. -/
def ofBytes {α : Type} (c : Codec α) (b : Bytes) : Result α :=
  match (Json.parse? b).bind (c.decode maxDepth) with
  | some a => .ok a
  | none => .error (.json "not a message of the expected form")

end Codec

end SchemaCheck
