import SchemaCheck.Text.CharClass

/-!
# Quoted text

How a message quotes a text it was given: between double quotes, with the quote, the backslash and
whatever would not show escaped, so that the reader sees where the text ends and what is in it.
-/

namespace SchemaCheck.Text

/-- A number in lower-case hexadecimal with no leading zero. -/
def hex (n : Nat) : List Char := Nat.toDigits 16 n

/-- One character between quotes. Marks that would join the character before them are escaped like
the invisible ones; a single quote is plain. -/
def quoteChar (c : Char) : List Char :=
  match c.toNat with
  | 0x00 => ['\\', '0']
  | 0x09 => ['\\', 't']
  | 0x0A => ['\\', 'n']
  | 0x0D => ['\\', 'r']
  | 0x22 => ['\\', '"']
  | 0x5C => ['\\', '\\']
  | n => if isGraphemeExtend c || !isVisible c then ['\\', 'u', '{'] ++ hex n ++ ['}'] else [c]

/-- A text between double quotes. -/
def quoted (s : String) : String :=
  String.ofList ('"' :: s.toList.flatMap quoteChar ++ ['"'])

end SchemaCheck.Text
