import SchemaCheck.Json.Value

/-!
# Printing JSON

The compact text of a JSON value: no white space, control characters and the two characters with a
meaning inside strings escaped, everything else as it is.
-/

namespace SchemaCheck.Json

/-- The byte of a character of ASCII. -/
def ascii (c : Char) : UInt8 := c.toNat.toUInt8

/-- The bytes of a text in ASCII. -/
def asciiText (cs : List Char) : Bytes := cs.map ascii

/-- The text of an integer. -/
def printInt (i : Int) : Bytes :=
  if i < 0 then ascii '-' :: asciiText (Nat.toDigits 10 i.natAbs)
  else asciiText (Nat.toDigits 10 i.natAbs)

/-- The digit of a number below 16. -/
def hexDigit (n : Nat) : UInt8 :=
  (if n < 10 then 0x30 + n else 0x61 + (n - 10)).toUInt8

/-- One byte inside a string. -/
def printByte (b : UInt8) : Bytes :=
  if b == 0x22 then [0x5C, 0x22]
  else if b == 0x5C then [0x5C, 0x5C]
  else if b == 0x08 then [0x5C, ascii 'b']
  else if b == 0x09 then [0x5C, ascii 't']
  else if b == 0x0A then [0x5C, ascii 'n']
  else if b == 0x0C then [0x5C, ascii 'f']
  else if b == 0x0D then [0x5C, ascii 'r']
  else if b < 0x20 then
    [0x5C, ascii 'u', ascii '0', ascii '0', hexDigit (b.toNat / 16), hexDigit (b.toNat % 16)]
  else [b]

/-- A string between quotes. -/
def printString (content : Bytes) : Bytes := 0x22 :: content.flatMap printByte ++ [0x22]

mutual

/-- The text of a value. -/
def print : Json → Bytes
  | .null => asciiText ['n', 'u', 'l', 'l']
  | .bool true => asciiText ['t', 'r', 'u', 'e']
  | .bool false => asciiText ['f', 'a', 'l', 's', 'e']
  | .integer i => printInt i
  | .decimal literal => literal
  | .string content => printString content
  | .array items => ascii '[' :: printItems items ++ [ascii ']']
  | .object members => ascii '{' :: printMembers members ++ [ascii '}']

/-- The items of an array with commas between them. -/
def printItems : List Json → Bytes
  | [] => []
  | [j] => j.print
  | j :: js => j.print ++ ascii ',' :: printItems js

/-- The members of an object with commas between them. -/
def printMembers : List (Bytes × Json) → Bytes
  | [] => []
  | [(k, j)] => printString k ++ ascii ':' :: j.print
  | (k, j) :: ms => printString k ++ ascii ':' :: j.print ++ ascii ',' :: printMembers ms

end

end SchemaCheck.Json
