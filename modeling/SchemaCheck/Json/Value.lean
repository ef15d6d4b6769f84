import SchemaCheck.Bytes

/-!
# JSON values

A JSON text as a tree. The content of a string is kept as bytes: a message that uses the string asks
that they be UTF-8, and a member that nobody uses may hold anything. A lone surrogate escape stands
for the three bytes that its code would have, which are no UTF-8.
-/

namespace SchemaCheck

/-- A JSON value. -/
inductive Json where
  | null
  | bool (value : Bool)
  /-- A number of plain digits with an optional minus sign. -/
  | integer (value : Int)
  /-- A number with a fraction or an exponent, or a negative zero; no message holds one. -/
  | decimal (literal : Bytes)
  | string (content : Bytes)
  | array (items : List Json)
  | object (members : List (Bytes × Json))
  deriving Repr

namespace Json

mutual

/-- How many arrays and objects are nested in one another. -/
def depth : Json → Nat
  | .array items => depthItems items + 1
  | .object members => depthMembers members + 1
  | _ => 0

/-- The greatest depth among the items of an array. -/
def depthItems : List Json → Nat
  | [] => 0
  | j :: js => max j.depth (depthItems js)

/-- The greatest depth among the members of an object. -/
def depthMembers : List (Bytes × Json) → Nat
  | [] => 0
  | (_, j) :: ms => max j.depth (depthMembers ms)

end

/-- The string with the given text. -/
def text (s : String) : Json := .string (Bytes.ofString s)

/-- The object with the given member names. -/
def ofMembers (ms : List (String × Json)) : Json :=
  .object (ms.map fun m => (Bytes.ofString m.1, m.2))

end Json

end SchemaCheck
