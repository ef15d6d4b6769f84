import SchemaCheck.Bytes

/-!
# Strings of bytes as characters

What programs read and write is bytes, which need not be text. Here each byte is the character of
its number, so that characters can be written in patterns, and a string of bytes is a list of them.
This module also holds what programs agree on: lines, white space, and how numbers are read.
-/

namespace SchemaCheck.Testing

/-- A string of characters below 256, one for each byte. -/
abbrev Chars := List Char

namespace Chars

/-- The characters of bytes. -/
def ofBytes (b : Bytes) : Chars := b.map fun x => Char.ofNat x.toNat

/-- The bytes of characters. -/
def toBytes (cs : Chars) : Bytes := cs.map fun c => c.toNat.toUInt8

/-- The characters of the UTF-8 form of a text. -/
def ofString (s : String) : Chars := ofBytes (Bytes.ofString s)

/-- The lines of a text, each with its end, in at most `fuel` lines; the last one may have none. -/
def linesWithin : Nat → Chars → List Chars
  | 0, _ => []
  | fuel + 1, cs =>
    match cs.span (· != '\n') with
    | ([], []) => []
    | (line, []) => [line]
    | (line, _ :: rest) => (line ++ ['\n']) :: linesWithin fuel rest

/-- The lines of a text, each with its end; the last one may have none. -/
def lines (cs : Chars) : List Chars := linesWithin (cs.length + 1) cs

/-- A line without its end. -/
def body (line : Chars) : Chars := if line.getLast? = some '\n' then line.dropLast else line

/-- The pieces between the places of a character. -/
def splitAt (c : Char) (cs : Chars) : List Chars :=
  cs.foldr (fun d pieces =>
    if d == c then [] :: pieces
    else match pieces with
      | p :: ps => (d :: p) :: ps
      | [] => [[d]]) [[]]

/-- Words with blanks between them. -/
def spaced (words : List Chars) : Chars := [' '].intercalate words

/-- Whether one string of bytes comes before another. -/
def before : Chars → Chars → Bool
  | [], cs => !cs.isEmpty
  | _ :: _, [] => false
  | c :: cs, d :: ds => c < d || (c == d && before cs ds)

end Chars

/-- The single quote. -/
def apostrophe : Char := Char.ofNat 0x27

/-- The quote that encloses commands. -/
def backquote : Char := Char.ofNat 0x60

/-- White space, which stands around words and numbers. -/
def isWhite (c : Char) : Bool := c == ' ' || ('\t' ≤ c && c ≤ '\r')

/-- Blanks within a line. -/
def isBlank (c : Char) : Bool := c == ' ' || c == '\t'

/-- The octal digits. -/
def isOctal (c : Char) : Bool := '0' ≤ c && c ≤ '7'

/-- Whether a character belongs to a named kind. -/
def ofKind (kind : String) (c : Char) : Bool :=
  match kind with
  | "alpha" => c.isAlpha
  | "digit" => c.isDigit
  | "alnum" => c.isAlphanum
  | "upper" => c.isUpper
  | "lower" => c.isLower
  | "space" => isWhite c
  | "blank" => isBlank c
  | "punct" => '!' ≤ c && c ≤ '~' && !c.isAlphanum
  | "xdigit" => c.isDigit || ('a' ≤ c && c ≤ 'f') || ('A' ≤ c && c ≤ 'F')
  | "cntrl" => c < ' ' || c.toNat == 0x7F
  | "print" => ' ' ≤ c && c ≤ '~'
  | "graph" => '!' ≤ c && c ≤ '~'
  | _ => false

/-- The kinds of characters that have a name. -/
def kinds : List String :=
  ["alpha", "digit", "alnum", "upper", "lower", "space", "blank", "punct", "xdigit", "cntrl",
    "print", "graph"]

/-- The value of a digit in bases up to sixteen. -/
def digitValue? (c : Char) : Option Nat :=
  if c.isDigit then some (c.toNat - 0x30)
  else if 'a' ≤ c && c ≤ 'f' then some (c.toNat - 0x61 + 10)
  else if 'A' ≤ c && c ≤ 'F' then some (c.toNat - 0x41 + 10)
  else none

/-- The number that digits write, after the number `n`, up to the first character that is no digit
of the base, and what follows. -/
def digits (base : Nat) : Nat → Chars → Nat × Chars
  | n, [] => (n, [])
  | n, c :: cs =>
    match digitValue? c with
    | some d => if d < base then digits base (n * base + d) cs else (n, c :: cs)
    | none => (n, c :: cs)

/-- A number as a word writes it, in base eight after a zero and in base sixteen after `0x`, and
what follows it. A word that writes none is zero, and all of it follows. -/
def integer (word : Chars) : Int × Chars :=
  let (negative, unsigned) := match word.dropWhile isWhite with
    | '-' :: cs => (true, cs)
    | '+' :: cs => (false, cs)
    | cs => (false, cs)
  let (n, rest) := match unsigned with
    | '0' :: x :: d :: rest =>
      if (x == 'x' || x == 'X') && (digitValue? d).isSome then digits 16 0 (d :: rest)
      else digits 8 0 unsigned
    | '0' :: _ => digits 8 0 unsigned
    | c :: _ => if c.isDigit then digits 10 0 unsigned else (0, word)
    | [] => (0, word)
  (if negative then -(n : Int) else n, rest)

/-- The number that a word is, where only decimal digits will do. -/
def natural? (w : Chars) : Option Nat :=
  let (n, rest) := digits 10 0 w
  if !w.isEmpty && rest.isEmpty then some n else none

/-- The decimal digits of a number, after zeros up to a width. -/
def zeroed (width n : Nat) : Chars :=
  let ds := Nat.toDigits 10 n
  List.replicate (width - ds.length) '0' ++ ds

/-- Characters behind blanks up to a width. -/
def rightIn (width : Nat) (cs : Chars) : Chars := List.replicate (width - cs.length) ' ' ++ cs

/-- Characters before blanks up to a width. -/
def leftIn (width : Nat) (cs : Chars) : Chars := cs ++ List.replicate (width - cs.length) ' '

/-- The characters of a number. -/
def decimal (n : Nat) : Chars := Nat.toDigits 10 n

end SchemaCheck.Testing
