import SchemaCheck.Testing.Host.Chars

/-!
# Numbers with a point

Floating-point numbers of 64 bits as decimal text, and back. A finite number is a whole number times
a power of two, so its decimal digits are computed exactly and rounded once; a half goes to the even
neighbour.
-/

namespace SchemaCheck.Testing.Floating

/-- A finite number without its sign: `mantissa` times two to the `exponent`. -/
structure Parts where
  mantissa : Nat
  exponent : Int

/-- What the bits of a number say: its sign, and its value if it is finite. -/
inductive Shape where
  | finite (parts : Parts)
  | infinite
  | undefined

/-- The sign and the shape of a number. -/
def shape (x : Float) : Bool × Shape :=
  let bits := x.toBits.toNat
  let negative := bits ≥ 0x8000000000000000
  let e : Nat := bits / 0x10000000000000 % 0x800
  let m : Nat := bits % 0x10000000000000
  if e = 2047 then (negative, if m = 0 then .infinite else .undefined)
  else if e = 0 then (negative, .finite ⟨m, -1074⟩)
  else (negative, .finite ⟨m + 0x10000000000000, (e : Int) - 1075⟩)

/-- A quotient rounded to a whole number; a half goes to the even neighbour. -/
def roundDiv (num den : Nat) : Nat :=
  let q := num / den
  let r := num % den
  if 2 * r > den || (2 * r = den && q % 2 = 1) then q + 1 else q

/-- A number times a power of ten, rounded to a whole number. -/
def Parts.scaled (p : Parts) (power : Int) : Nat :=
  let num := p.mantissa * Nat.pow 2 p.exponent.toNat * Nat.pow 10 power.toNat
  let den := Nat.pow 2 (-p.exponent).toNat * Nat.pow 10 (-power).toNat
  roundDiv num den

/-- Whether a number is at least a power of ten. -/
def Parts.reaches (p : Parts) (power : Int) : Bool :=
  p.mantissa * Nat.pow 2 p.exponent.toNat * Nat.pow 10 (-power).toNat ≥
    Nat.pow 2 (-p.exponent).toNat * Nat.pow 10 power.toNat

/-- The largest power of ten that a number reaches, tried downwards from `top` in `fuel` steps. -/
def Parts.powerBelow (p : Parts) (top : Int) : Nat → Int
  | 0 => top
  | fuel + 1 => if p.reaches top then top else p.powerBelow (top - 1) fuel

/-- The power of ten of the first digit of a number. -/
def Parts.power (p : Parts) : Int :=
  if p.mantissa = 0 then 0
  else
    let bits : Int := (Nat.log2 p.mantissa : Int) + p.exponent
    p.powerBelow (bits * 30103 / 100000 + 2) 6

/-- A number with so many digits behind the point. -/
def Parts.fixed (p : Parts) (places : Nat) (pointed : Bool := false) : Chars :=
  let ds := zeroed (places + 1) (p.scaled places)
  let whole := ds.length - places
  ds.take whole ++ (if places > 0 || pointed then ['.'] else []) ++ ds.drop whole

/-- The digits of a number, one before the point, and its power of ten. -/
def Parts.digits (p : Parts) (places : Nat) : Chars × Int :=
  let x := p.power
  let n := p.scaled ((places : Int) - x)
  if n ≥ Nat.pow 10 (places + 1) then (zeroed (places + 1) (n / 10), x + 1)
  else (zeroed (places + 1) n, x)

/-- An exponent as it is written, with a sign and two digits at least. -/
def exponentText (x : Int) : Chars := (if x < 0 then '-' else '+') :: zeroed 2 x.natAbs

/-- A number with one digit before the point, so many behind it, and a power of ten. -/
def Parts.scientific (p : Parts) (places : Nat) (pointed : Bool := false) : Chars :=
  let (ds, x) := p.digits places
  ds.take 1 ++ (if places > 0 || pointed then ['.'] else []) ++ ds.drop 1 ++ 'e' :: exponentText x

/-- A text without zeros at its end, and without a point before them. -/
def trimZeros (cs : Chars) : Chars :=
  if cs.contains '.' then
    let cs := (cs.reverse.dropWhile (· == '0')).reverse
    if cs.getLast? = some '.' then cs.dropLast else cs
  else cs

/-- A number with so many digits in all, in whichever of the two forms suits its size. -/
def Parts.general (p : Parts) (places : Nat) (keepsZeros : Bool := false) : Chars :=
  let places := max places 1
  let (ds, x) := p.digits (places - 1)
  if -4 ≤ x && x < places then
    let cs := p.fixed ((places : Int) - 1 - x).toNat keepsZeros
    if keepsZeros then cs else trimZeros cs
  else
    let ds := ds.take 1 ++ (if places > 1 || keepsZeros then ['.'] else []) ++ ds.drop 1
    (if keepsZeros then ds else trimZeros ds) ++ 'e' :: exponentText x

/-- A number in base sixteen: its digits without zeros at the end, and its power of two. -/
def Parts.hexadecimal (p : Parts) (places : Option Nat) : Chars :=
  if p.mantissa = 0 then
    ['0', 'x', '0'] ++ (match places with
      | some (n + 1) => '.' :: List.replicate (n + 1) '0'
      | _ => []) ++ ['p', '+', '0']
  else
    let normal := p.mantissa ≥ 0x10000000000000
    let x : Int := p.exponent + 52
    let (m, k) := match places with
      | some n =>
        if n < 13 then (roundDiv p.mantissa (Nat.pow 16 (13 - n)), n) else (p.mantissa, 13)
      | none => (p.mantissa, 13)
    let whole := m / Nat.pow 16 k
    let ds := (Nat.toDigits 16 (m % Nat.pow 16 k))
    let ds := List.replicate (k - ds.length) '0' ++ ds
    let ds := if k = 0 then [] else ds
    let ds := match places with
      | some n => ds ++ List.replicate (n - 13) '0'
      | none => (ds.reverse.dropWhile (· == '0')).reverse
    let x := if normal then x else -1022
    ['0', 'x'] ++ Nat.toDigits 16 whole ++ (if ds.isEmpty then [] else '.' :: ds) ++
      'p' :: (if x < 0 then '-' else '+') :: decimal x.natAbs

/-- A decimal number times a power of ten. -/
def ofDecimal (mantissa : Nat) (power : Int) : Float :=
  let size : Int := (decimal mantissa).length + power
  if mantissa = 0 then 0.0
  else if size > 400 then 1.0 / 0.0
  else if size < -400 then 0.0
  else if power < 0 then Float.ofScientific mantissa true power.natAbs
  else Float.ofScientific mantissa false power.natAbs

/-- An exponent after its letter, and what follows it; without digits there is none. -/
def exponent? (cs : Chars) : Option (Int × Chars) :=
  let (negative, ds) := match cs with
    | '-' :: ds => (true, ds)
    | '+' :: ds => (false, ds)
    | ds => (false, ds)
  if (ds.head?.map Char.isDigit).getD false then
    let (n, rest) := Testing.digits 10 0 ds
    some (if negative then -(n : Int) else n, rest)
  else none

/-- The digits of a number with or without a point: as a whole number, how many of them are behind
the point, how many there are, and what follows them. -/
def pointed (base : Nat) (cs : Chars) : Nat × Nat × Nat × Chars :=
  let (n, rest) := Testing.digits base 0 cs
  let whole := cs.length - rest.length
  match rest with
  | '.' :: ds =>
    let (m, after) := Testing.digits base n ds
    let places := ds.length - after.length
    if whole + places = 0 then (0, 0, 0, cs) else (m, places, whole + places, after)
  | _ => (n, 0, whole, rest)

/-- A number without a sign at the start of a text, and what follows it. -/
def unsigned? (cs : Chars) : Option (Float × Chars) :=
  let lower := (cs.take 8).map Char.toLower
  let decimalForm : Option (Float × Chars) :=
    let (n, places, count, rest) := pointed 10 cs
    if count = 0 then none
    else
      let (x, rest) := match rest with
        | e :: more =>
          if e == 'e' || e == 'E' then (exponent? more).getD (0, rest) else (0, rest)
        | [] => (0, rest)
      some (ofDecimal n (x - places), rest)
  match lower with
  | '0' :: 'x' :: _ =>
    let (n, places, count, rest) := pointed 16 (cs.drop 2)
    if count = 0 then decimalForm
    else
      let (x, rest) := match rest with
        | p :: more =>
          if p == 'p' || p == 'P' then (exponent? more).getD (0, rest) else (0, rest)
        | [] => (0, rest)
      some (Float.scaleB (Float.ofNat n) (x - 4 * (places : Int)), rest)
  | 'i' :: 'n' :: 'f' :: 'i' :: 'n' :: 'i' :: 't' :: 'y' :: _ => some (1.0 / 0.0, cs.drop 8)
  | 'i' :: 'n' :: 'f' :: _ => some (1.0 / 0.0, cs.drop 3)
  | 'n' :: 'a' :: 'n' :: _ => some (0.0 / 0.0, cs.drop 3)
  | _ => decimalForm

/-- A number at the start of a text after white space, and what follows it. A text that begins with
none is zero, and all of it follows. -/
def read (text : Chars) : Float × Chars :=
  match text.dropWhile isWhite with
  | '-' :: cs =>
    match unsigned? cs with
    | some (x, rest) => (-x, rest)
    | none => (0.0, text)
  | '+' :: cs => (unsigned? cs).getD (0.0, text)
  | cs => (unsigned? cs).getD (0.0, text)

end SchemaCheck.Testing.Floating
