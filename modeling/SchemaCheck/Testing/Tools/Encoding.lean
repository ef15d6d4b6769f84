import SchemaCheck.Testing.Digest
import SchemaCheck.Testing.Tools.Basic

/-!
# Encodings and digests

Tools that show bytes in another form: with sixty-four letters, as numbers, or by a digest.
-/

namespace SchemaCheck.Testing.Tools

open Host

namespace Encoding

/-- The letters that stand for six bits. -/
def letters : Array Char :=
  ("ABCDEFGHIJKLMNOPQRSTUVWXYZ".toList ++ "abcdefghijklmnopqrstuvwxyz".toList ++
    "0123456789+/".toList).toArray

/-- The letters of up to three bytes, filled up with signs. -/
def encodeGroup (cs : Chars) : Chars :=
  let n := Digest.wordOf ((cs ++ List.replicate (3 - cs.length) (Char.ofNat 0)).map Char.toNat)
  (([n / 262144, n / 4096, n / 64, n].take (cs.length + 1)).map fun v =>
    letters.getD (v % 64) '=') ++ List.replicate (3 - cs.length) '='

/-- The letters of a text. -/
def encode (cs : Chars) : Chars := (Digest.piecesOf 3 (cs.length + 1) cs).flatMap encodeGroup

/-- The bytes of a group of letters, or what could be read of it. -/
def decodeGroup (cs : Chars) : Except Chars Chars :=
  let values := (cs.takeWhile (letters.contains ·)).map fun c => (letters.idxOf? c).getD 0
  let n := values.foldl (fun n v => n * 64 + v) 0 * Nat.pow 64 (4 - values.length)
  let bytes := ([n / 65536, n / 256, n].take (values.length - 1)).map fun b => Char.ofNat (b % 256)
  if cs.length = 4 && values.length > 1 && (cs.drop values.length).all (· == '=') then .ok bytes
  else .error bytes

/-- The bytes that letters stand for, as far as they can be read, and whether all could be. -/
def decode (cs : Chars) : Chars × Bool :=
  (Digest.piecesOf 4 (cs.length + 1) cs).foldl (fun (done, isGood) group =>
    if !isGood then (done, false)
    else match decodeGroup group with
      | .ok bytes => (done ++ bytes, true)
      | .error bytes => (done ++ bytes, false)) ([], true)

end Encoding

/-- Writes a text with sixty-four letters, or reads such letters. -/
def base64 : Program := Options.run { plain := "di", valued := "w" } fun c p => do
  let path := p.operands.headD ['-']
  match ← readPath path with
  | .error e =>
    c.sayOf path e.text
    return 1
  | .ok cs =>
    if p.has 'd' then
      let (text, isGood) := Encoding.decode (cs.filter (· != '\n'))
      c.put text
      if isGood then return 0 else c.fail "invalid input".toList
    else
      match natural? (p.valueOr 'w' "76".toList) with
      | none => c.fail ("invalid wrap size: ".toList ++ quoted (p.valueOr 'w' []))
      | some width =>
        let text := Encoding.encode cs
        c.put (if width = 0 then text
          else (Digest.piecesOf width (text.length + 1) text).flatMap fun line => line ++ ['\n'])
        return 0

/-- Shows the digests of files. -/
def digestTool (m : Digest.Method) : Program := Options.run { plain := "bt" } fun c p =>
  showTexts c p.operands fun path cs =>
    (m.digest (cs.map Char.toNat)).flatMap (fun b =>
      [Nat.digitChar (b / 16), Nat.digitChar (b % 16)]) ++
      [' ', if p.has 'b' then '*' else ' '] ++ path ++ ['\n']

/-- Shows checksums of files and how long they are. -/
def cksum : Program := Options.run {} fun c p =>
  showTexts c p.operands fun path cs =>
    decimal (Digest.remainderOf (cs.map Char.toNat)) ++ ' ' :: decimal cs.length ++
      (if p.operands.isEmpty then [] else ' ' :: path) ++ ['\n']

/-- A byte as `od` shows it: as a number in base sixteen or eight, or as a character. -/
def shownByte (form : Chars) (b : Char) : Chars :=
  let ds := Nat.toDigits 8 b.toNat
  let octal := List.replicate (3 - ds.length) '0' ++ ds
  match form with
  | 'x' :: _ => [' ', Nat.digitChar (b.toNat / 16), Nat.digitChar (b.toNat % 16)]
  | 'c' :: _ =>
    let names : List (Nat × Chars) := [(0, ['\\', '0']), (7, ['\\', 'a']), (8, ['\\', 'b']),
      (9, ['\\', 't']), (10, ['\\', 'n']), (11, ['\\', 'v']), (12, ['\\', 'f']), (13, ['\\', 'r'])]
    rightIn 4 ((names.lookup b.toNat).getD (if ofKind "print" b then [b] else octal))
  | 'u' :: _ => rightIn 4 (decimal b.toNat)
  | _ => ' ' :: octal

/-- Shows the bytes of its input. -/
def od : Program := Options.run { plain := "bcv", valued := "At" } fun c p => do
  let form := if p.has 'c' then ['c'] else if p.has 'b' then ['o'] else p.valueOr 't' ['x', '1']
  let offset (n : Nat) : Chars := if p.value? 'A' = some ['n'] then []
    else if p.value? 'A' = some ['d'] then zeroed 7 n
    else
      let ds := Nat.toDigits 8 n
      List.replicate (7 - ds.length) '0' ++ ds
  let mut text := []
  for path in orInput p.operands do
    match ← readPath path with
    | .ok cs => text := text ++ cs
    | .error e =>
      c.sayOf path e.text
      Act.leave (.exited 1)
  let rows := Digest.piecesOf 16 (text.length + 1) text
  c.put ((rows.zipIdx.flatMap fun (row, i) =>
    offset (16 * i) ++ row.flatMap (shownByte form) ++ ['\n']) ++
    (if (offset 0).isEmpty then [] else offset text.length ++ ['\n']))
  return 0

end SchemaCheck.Testing.Tools
