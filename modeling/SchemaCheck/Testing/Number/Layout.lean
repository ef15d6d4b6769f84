import SchemaCheck.Testing.Number.Floating

/-!
# Places in formats

How numbers and text stand in the place that a format gives them: with a least width, with a number
of digits, and with flags that say what stands in front of them.
-/

namespace SchemaCheck.Testing

/-- The flags, the least width and the precision of a place in a format. -/
structure Layout where
  flags : Chars
  width : Nat
  precision : Option Nat

/-- Whether a place has a flag. -/
def Layout.has (p : Layout) (c : Char) : Bool := p.flags.contains c

/-- Characters in a place, with blanks up to its width. -/
def Layout.pad (p : Layout) (cs : Chars) : Chars :=
  let blanks := List.replicate (p.width - cs.length) ' '
  if p.has '-' then cs ++ blanks else blanks ++ cs

/-- The digits of a number in a place, with its sign or base in front and zeros between. -/
def Layout.number (p : Layout) (front : Chars) (ds : Chars) : Chars :=
  let ds := if p.precision = some 0 && ds == ['0'] then [] else ds
  let ds := List.replicate (p.precision.getD 0 - ds.length) '0' ++ ds
  let zeros :=
    if p.has '0' && !p.has '-' && p.precision.isNone then p.width - front.length - ds.length else 0
  p.pad (front ++ List.replicate zeros '0' ++ ds)

/-- A signed number in a place. -/
def Layout.signed (p : Layout) (n : Int) : Chars :=
  p.number
    (if n < 0 then ['-'] else if p.has '+' then ['+'] else if p.has ' ' then [' '] else [])
    (Nat.toDigits 10 n.natAbs)

/-- An unsigned number in a place, in one of the bases that letters stand for. -/
def Layout.unsigned (p : Layout) (letter : Char) (n : Nat) : Chars :=
  match letter with
  | 'o' =>
    let ds := Nat.toDigits 8 n
    p.number [] (if p.has '#' && n ≠ 0 then '0' :: ds else ds)
  | 'x' => p.number (if p.has '#' && n ≠ 0 then ['0', 'x'] else []) (Nat.toDigits 16 n)
  | 'X' =>
    p.number (if p.has '#' && n ≠ 0 then ['0', 'X'] else [])
      ((Nat.toDigits 16 n).map Char.toUpper)
  | _ => p.number [] (Nat.toDigits 10 n)

/-- A number with a point in a place, in one of the forms that letters stand for. -/
def Layout.floating (p : Layout) (letter : Char) (x : Float) : Chars :=
  let (negative, shape) := Floating.shape x
  let front := if negative then ['-']
    else if p.has '+' then ['+'] else if p.has ' ' then [' '] else []
  let places := p.precision.getD 6
  let text := match shape with
    | .infinite => "inf".toList
    | .undefined => "nan".toList
    | .finite q =>
      match letter.toLower with
      | 'e' => q.scientific places (p.has '#')
      | 'g' => q.general places (p.has '#')
      | 'a' => q.hexadecimal p.precision
      | _ => q.fixed places (p.has '#')
  let text := if letter.isUpper then text.map Char.toUpper else text
  match shape with
  | .finite _ => { p with precision := none }.number front text
  | _ => p.pad (front ++ text)

/-- Characters in a place for text. -/
def Layout.text (p : Layout) (cs : Chars) : Chars :=
  p.pad (match p.precision with
    | some n => cs.take n
    | none => cs)

end SchemaCheck.Testing
