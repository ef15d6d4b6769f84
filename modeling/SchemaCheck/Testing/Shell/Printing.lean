import SchemaCheck.Testing.Number.Layout
import SchemaCheck.Testing.Shell.Script

/-!
# What shell scripts print

The two commands that print: `echo` writes words with blanks between them and ends the line,
`printf` writes a format with words in its places, as often as there are words. Both read escapes:
after a backslash a letter stands for a control character, and an octal number for a byte.
-/

namespace SchemaCheck.Testing.Shell

/-- The character that a letter stands for after a backslash. -/
def control? : Char → Option Char
  | 'a' => some (Char.ofNat 0x07)
  | 'b' => some (Char.ofNat 0x08)
  | 't' => some '\t'
  | 'n' => some '\n'
  | 'v' => some (Char.ofNat 0x0B)
  | 'f' => some (Char.ofNat 0x0C)
  | 'r' => some '\r'
  | 'e' => some (Char.ofNat 0x1B)
  | '\\' => some '\\'
  | _ => none

/-- The character of an escape, from what follows the backslash, and what follows the escape. An
octal number has up to three digits, with `zeroFirst` after a zero. A backslash that begins no
escape stands for itself. -/
def escape (zeroFirst : Bool) (s : Chars) : Char × Chars :=
  match s with
  | [] => ('\\', [])
  | c :: rest =>
    match control? c with
    | some d => (d, rest)
    | none =>
      if isOctal c then
        let from_ := if zeroFirst && c == '0' then rest else s
        let ds := (from_.take 3).takeWhile isOctal
        (Char.ofNat ((digits 8 0 ds).1 % 256), from_.drop ds.length)
      else ('\\', s)

/-- A text in which escapes are read, and whether an escape says that nothing may follow. -/
def unescape : Nat → Chars → Chars × Bool
  | 0, _ => ([], false)
  | _ + 1, [] => ([], false)
  | _ + 1, '\\' :: 'c' :: _ => ([], true)
  | fuel + 1, c :: s =>
    let (c, s) := if c == '\\' then escape true s else (c, s)
    let (cs, stops) := unescape fuel s
    (c :: cs, stops)

/-- What `echo` writes. -/
def echo (words : List Chars) : Chars :=
  let (ends, words) := match words with
    | ['-', 'n'] :: words => (false, words)
    | words => (true, words)
  let (text, stops) := unescape ((Chars.spaced words).length + 1) (Chars.spaced words)
  if ends && !stops then text ++ ['\n'] else text

/-- The largest number that a word can write. -/
def largest : Int := 0x7FFFFFFFFFFFFFFF

/-- The smallest number that a word can write. -/
def smallest : Int := -0x8000000000000000

/-- A number brought into the range of 64 bits. -/
def clamp (n : Int) : Int := max smallest (min largest n)

/-- A number as an unsigned one of 64 bits. -/
def unsigned (n : Int) : Nat := (n % 0x10000000000000000).toNat

/-- What `printf` makes of its words. -/
structure Printed where
  text : Chars := []
  /-- What is wrong with words that should be numbers. -/
  complaints : List String := []
  /-- The words that are still to be written. -/
  words : List Chars
  /-- Whether nothing may follow. -/
  stops : Bool := false
  /-- What is wrong with the format. -/
  fault : Option String := none

/-- Takes the next word; a missing one is empty. -/
def Printed.take (p : Printed) : Chars × Printed :=
  (p.words.headD [], { p with words := p.words.tail })

/-- Takes the next word as a number. After a quote it is that of a character; a missing one is
zero. -/
def Printed.takeNumber (p : Printed) : Int × Printed :=
  match p.words with
  | [] => (0, p)
  | w :: words =>
    let p := { p with words }
    match w with
    | '"' :: c :: _ => (c.toNat, p)
    | _ =>
      if w.head? = some apostrophe then (((w.tail.headD (Char.ofNat 0)).toNat : Int), p)
      else
        let (n, rest) := integer w
        let text := String.ofList w
        let complaints :=
          if rest.length = w.length && !w.isEmpty then [text ++ ": expected numeric value"]
          else if !rest.isEmpty then [text ++ ": not completely converted"]
          else if clamp n ≠ n then [text ++ ": Numerical result out of range"]
          else []
        (clamp n, { p with complaints := p.complaints ++ complaints })

/-- Takes the next word as a number with a point. After a quote it is that of a character; a missing
one is zero. -/
def Printed.takeFloat (p : Printed) : Float × Printed :=
  match p.words with
  | [] => (0.0, p)
  | w :: words =>
    let p := { p with words }
    if w.head? = some '"' || w.head? = some apostrophe then
      (((w.tail.headD (Char.ofNat 0)).toNat).toFloat, p)
    else
      let (x, rest) := Floating.read w
      let text := String.ofList w
      let complaints :=
        if rest.length = w.length && !w.isEmpty then [text ++ ": expected numeric value"]
        else if !rest.isEmpty then [text ++ ": not completely converted"]
        else []
      (x, { p with complaints := p.complaints ++ complaints })

/-- A width or a precision: a star takes it from the words. -/
def Printed.measure (p : Printed) : Chars → Int × Chars × Printed
  | '*' :: cs =>
    let (n, p) := p.takeNumber
    (n, cs, p)
  | cs => (((digits 10 0 cs).1 : Int), (digits 10 0 cs).2, p)

/-- A place of a format, from what follows the percent sign, and what follows the place. -/
def Printed.place (p : Printed) (format : Chars) : Layout × Chars × Printed :=
  let (flags, cs) := format.span fun c => ['#', '-', '+', ' ', '0'].contains c
  let (width, cs, p) := p.measure cs
  let flags := if width < 0 then '-' :: flags else flags
  match cs with
  | '.' :: cs =>
    let (precision, cs, p) := p.measure cs
    (⟨flags, width.natAbs, if precision < 0 then none else some precision.toNat⟩, cs, p)
  | cs => (⟨flags, width.natAbs, none⟩, cs, p)

/-- What a letter writes in a place; `none` if it stands for nothing. -/
def Printed.convert (p : Printed) (place : Layout) : Char → Option Printed
  | 's' =>
    let (w, p) := p.take
    some { p with text := p.text ++ place.text w }
  | 'b' =>
    let (w, p) := p.take
    let (w, stops) := unescape (w.length + 1) w
    some { p with text := p.text ++ place.text w, stops }
  | 'c' =>
    let (w, p) := p.take
    some { p with text := p.text ++ place.pad [w.headD (Char.ofNat 0)] }
  | c =>
    if c == 'd' || c == 'i' then
      let (n, p) := p.takeNumber
      some { p with text := p.text ++ place.signed n }
    else if ['o', 'u', 'x', 'X'].contains c then
      let (n, p) := p.takeNumber
      some { p with text := p.text ++ place.unsigned c (Shell.unsigned n) }
    else if ['e', 'f', 'g', 'a'].contains c.toLower then
      let (x, p) := p.takeFloat
      some { p with text := p.text ++ place.floating c x }
    else none

/-- Goes through a format once, in at most `fuel` steps. -/
def Printed.once : Nat → Printed → Chars → Printed
  | 0, p, _ => p
  | _ + 1, p, [] => p
  | fuel + 1, p, '\\' :: s =>
    let (c, s) := escape false s
    Printed.once fuel { p with text := p.text ++ [c] } s
  | fuel + 1, p, '%' :: '%' :: s => Printed.once fuel { p with text := p.text ++ ['%'] } s
  | fuel + 1, p, '%' :: s =>
    let (place, rest, p) := p.place s
    match rest with
    | [] => { p with fault := some "missing format character" }
    | c :: rest =>
      match p.convert place c with
      | some p => if p.stops then p else Printed.once fuel p rest
      | none =>
        { p with fault := some (String.ofList ('%' :: s.take (s.length - rest.length)) ++
            ": invalid directive") }
  | fuel + 1, p, c :: s => Printed.once fuel { p with text := p.text ++ [c] } s

/-- Goes through a format until no word is left, or once if it takes none. -/
def Printed.all : Nat → Printed → Chars → Printed
  | 0, p, _ => p
  | fuel + 1, p, format =>
    let q := Printed.once (format.length + 1) p format
    if q.stops || q.fault.isSome || q.words.isEmpty || q.words.length = p.words.length then q
    else Printed.all fuel q format

/-- What `printf` writes, and what it complains about. -/
def printf (format : Chars) (words : List Chars) : Printed :=
  Printed.all (words.length + 1) { words } format

end SchemaCheck.Testing.Shell
