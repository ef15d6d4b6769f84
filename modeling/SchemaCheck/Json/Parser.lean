import SchemaCheck.Json.Value

/-!
# Reading JSON

A strict reader of JSON texts: white space is space, tab, line feed and carriage return, numbers
have no leading zeros, control characters inside strings are escaped, and nothing but white space
follows the value. Every function takes the bytes that are left and gives those that are left after
it.
-/

namespace SchemaCheck.Json

/-- The white space of JSON. -/
def isBlank (b : UInt8) : Bool := b == 0x20 || b == 0x09 || b == 0x0A || b == 0x0D

/-- The bytes after leading white space. -/
def skipBlank (s : Bytes) : Bytes := s.dropWhile isBlank

/-- The rest of the input after a word that must come next. -/
def expect : Bytes → Bytes → Option Bytes
  | [], s => some s
  | w :: ws, b :: s => if w == b then expect ws s else none
  | _ :: _, [] => none

/-- The value of a hexadecimal digit. -/
def hexValue (b : UInt8) : Option Nat :=
  if 0x30 ≤ b && b ≤ 0x39 then some (b.toNat - 0x30)
  else if 0x41 ≤ b && b ≤ 0x46 then some (b.toNat - 0x41 + 10)
  else if 0x61 ≤ b && b ≤ 0x66 then some (b.toNat - 0x61 + 10)
  else none

/-- The number that four hexadecimal digits write. -/
def hexUnit (a b c d : UInt8) : Option Nat := do
  return (((← hexValue a) * 16 + (← hexValue b)) * 16 + (← hexValue c)) * 16 + (← hexValue d)

/-- The bytes of a code point, by the scheme of UTF-8; a surrogate has three that no text has. -/
def codeBytes (n : Nat) : Bytes :=
  if n < 0x80 then [n.toUInt8]
  else if n < 0x800 then [(0xC0 + n / 0x40).toUInt8, (0x80 + n % 0x40).toUInt8]
  else if n < 0x10000 then
    [(0xE0 + n / 0x1000).toUInt8, (0x80 + n / 0x40 % 0x40).toUInt8, (0x80 + n % 0x40).toUInt8]
  else
    [(0xF0 + n / 0x40000).toUInt8, (0x80 + n / 0x1000 % 0x40).toUInt8,
      (0x80 + n / 0x40 % 0x40).toUInt8, (0x80 + n % 0x40).toUInt8]

/-- The second half of a surrogate pair, when an escape for one comes next. -/
def lowSurrogate? : Bytes → Option (Nat × Bytes)
  | 0x5C :: 0x75 :: a :: b :: c :: d :: s =>
    match hexUnit a b c d with
    | some n => if 0xDC00 ≤ n && n ≤ 0xDFFF then some (n, s) else none
    | none => none
  | _ => none

/-- What a one-letter escape stands for. -/
def simpleEscape (b : UInt8) : Option UInt8 :=
  if b == 0x22 || b == 0x5C || b == 0x2F then some b
  else if b == 0x62 then some 0x08
  else if b == 0x66 then some 0x0C
  else if b == 0x6E then some 0x0A
  else if b == 0x72 then some 0x0D
  else if b == 0x74 then some 0x09
  else none

/-- What follows the backslash of an escape: the bytes that it stands for. -/
def escape : Bytes → Option (Bytes × Bytes)
  | 0x75 :: a :: b :: c :: d :: s => do
    let n ← hexUnit a b c d
    if 0xD800 ≤ n && n ≤ 0xDBFF then
      match lowSurrogate? s with
      | some (m, s) => some (codeBytes (0x10000 + (n - 0xD800) * 0x400 + (m - 0xDC00)), s)
      | none => some (codeBytes n, s)
    else some (codeBytes n, s)
  | b :: s => (simpleEscape b).map fun c => ([c], s)
  | [] => none

/-- The content of a string up to the quote that closes it, read in at most `fuel` steps. -/
def stringBody : Nat → Bytes → Option (Bytes × Bytes)
  | 0, _ => none
  | _ + 1, [] => none
  | fuel + 1, b :: s =>
    if b == 0x22 then some ([], s)
    else if b == 0x5C then do
      let (c, s) ← escape s
      let (cs, s) ← stringBody fuel s
      some (c ++ cs, s)
    else if b < 0x20 then none
    else do
      let (cs, s) ← stringBody fuel s
      some (b :: cs, s)

/-- A string, from its first quote on. -/
def string? : Bytes → Option (Bytes × Bytes)
  | 0x22 :: s => stringBody (s.length + 1) s
  | _ => none

/-- The digits of ASCII. -/
def isDigit (b : UInt8) : Bool := 0x30 ≤ b && b ≤ 0x39

/-- The number that digits write. -/
def digitsValue (ds : Bytes) : Nat := ds.foldl (fun n d => n * 10 + (d.toNat - 0x30)) 0

/-- One digit or more. -/
def digits? (s : Bytes) : Option (Bytes × Bytes) :=
  match s.span isDigit with
  | ([], _) => none
  | r => some r

/-- The digits of a number before its fraction: a zero alone, or digits that start with none. -/
def wholeDigits? (s : Bytes) : Option (Bytes × Bytes) :=
  match digits? s with
  | some (0x30 :: _ :: _, _) => none
  | r => r

/-- The fraction of a number, which may be missing. -/
def fraction? : Bytes → Option (Bytes × Bytes)
  | 0x2E :: s => (digits? s).map fun (ds, s) => (0x2E :: ds, s)
  | s => some ([], s)

/-- The sign of an exponent, which may be missing. -/
def exponentSign : Bytes → Bytes × Bytes
  | 0x2B :: s => ([0x2B], s)
  | 0x2D :: s => ([0x2D], s)
  | s => ([], s)

/-- The exponent of a number, which may be missing. -/
def exponent? : Bytes → Option (Bytes × Bytes)
  | e :: s =>
    if e == 0x65 || e == 0x45 then
      let (sign, s) := exponentSign s
      (digits? s).map fun (ds, s) => (e :: sign ++ ds, s)
    else some ([], e :: s)
  | [] => some ([], [])

/-- A number without its sign. -/
def unsignedNumber? (negative : Bool) (s : Bytes) : Option (Json × Bytes) := do
  let (whole, s) ← wholeDigits? s
  let (fraction, s) ← fraction? s
  let (exponent, s) ← exponent? s
  let n := digitsValue whole
  if fraction.isEmpty && exponent.isEmpty && !(negative && n == 0) then
    some (.integer (if negative then -(n : Int) else n), s)
  else
    some (.decimal ((if negative then [0x2D] else []) ++ whole ++ fraction ++ exponent), s)

/-- A number. -/
def number? : Bytes → Option (Json × Bytes)
  | 0x2D :: s => unsignedNumber? true s
  | s => unsignedNumber? false s

/-- A value that is neither array nor object, from its first byte on. -/
def scalar? : Bytes → Option (Json × Bytes)
  | [] => none
  | b :: s =>
    if b == 0x22 then (string? (b :: s)).map fun (content, s) => (.string content, s)
    else if b == 0x6E then (expect [0x75, 0x6C, 0x6C] s).map fun s => (.null, s)
    else if b == 0x74 then (expect [0x72, 0x75, 0x65] s).map fun s => (.bool true, s)
    else if b == 0x66 then (expect [0x61, 0x6C, 0x73, 0x65] s).map fun s => (.bool false, s)
    else number? (b :: s)

mutual

/-- A value with white space before it, read in at most `fuel` steps. -/
def value? : Nat → Bytes → Option (Json × Bytes)
  | 0, _ => none
  | fuel + 1, s =>
    match skipBlank s with
    | 0x5B :: s =>
      match skipBlank s with
      | 0x5D :: s => some (.array [], s)
      | s => (items? fuel s).map fun (js, s) => (.array js, s)
    | 0x7B :: s =>
      match skipBlank s with
      | 0x7D :: s => some (.object [], s)
      | s => (members? fuel s).map fun (ms, s) => (.object ms, s)
    | s => scalar? s

/-- The items of an array that is not empty, with the bracket that closes it. -/
def items? : Nat → Bytes → Option (List Json × Bytes)
  | 0, _ => none
  | fuel + 1, s => do
    let (j, s) ← value? fuel s
    match skipBlank s with
    | 0x2C :: s =>
      let (js, s) ← items? fuel s
      some (j :: js, s)
    | 0x5D :: s => some ([j], s)
    | _ => none

/-- The members of an object that is not empty, with the brace that closes it. -/
def members? : Nat → Bytes → Option (List (Bytes × Json) × Bytes)
  | 0, _ => none
  | fuel + 1, s => do
    let (k, s) ← string? (skipBlank s)
    match skipBlank s with
    | 0x3A :: s =>
      let (j, s) ← value? fuel s
      match skipBlank s with
      | 0x2C :: s =>
        let (ms, s) ← members? fuel s
        some ((k, j) :: ms, s)
      | 0x7D :: s => some ([(k, j)], s)
      | _ => none
    | _ => none

end

/-- The value that a text writes, if it writes one. Two steps for each byte always suffice. -/
def parse? (s : Bytes) : Option Json :=
  match value? (2 * s.length + 2) s with
  | some (j, s) => if (skipBlank s).isEmpty then some j else none
  | none => none

end SchemaCheck.Json
