import SchemaCheck.Testing.Host.Chars

/-!
# Digests of messages

A digest is made block by block: each block changes a state of a few words of 32 bits, and the last
state is written as bytes. Words are numbers below a power of two. A checksum is made byte by byte.
-/

namespace SchemaCheck.Testing.Digest

/-- The number of words. -/
def bound : Nat := 0x100000000

/-- A word turned to the left. -/
def turn (n x : Nat) : Nat := (x <<< n ||| x >>> (32 - n)) % bound

/-- All bits of a word the other way round. -/
def inverted (x : Nat) : Nat := x ^^^ (bound - 1)

/-- The number that bytes are, the highest first. -/
def wordOf (bytes : List Nat) : Nat := bytes.foldl (fun n b => n * 256 + b) 0

/-- So many bytes of a number, the lowest first. -/
def lowBytes : Nat → Nat → List Nat
  | 0, _ => []
  | n + 1, x => x % 256 :: lowBytes n (x / 256)

/-- Pieces of a length, in at most `fuel` pieces; the last one may be shorter. -/
def piecesOf {α : Type} (size : Nat) : Nat → List α → List (List α)
  | 0, _ | _, [] => []
  | fuel + 1, xs => xs.take size :: piecesOf size fuel (xs.drop size)

/-- How a digest is made: whether words are written with the lowest byte first, the state at the
start, and what a block makes of a state. -/
structure Method where
  isLowFirst : Bool
  start : List Nat
  absorb : List Nat → Array Nat → List Nat

/-- The words of the blocks of a message, behind which come a bit that is set and the length in
bits. -/
def Method.blocks (m : Method) (bytes : List Nat) : List (List Nat) :=
  let ordered (bytes : List Nat) : List Nat := if m.isLowFirst then bytes.reverse else bytes
  let n := bytes.length
  let whole := bytes ++ 128 :: List.replicate ((119 - n % 64) % 64) 0 ++
    ordered (lowBytes 8 (8 * n)).reverse
  (piecesOf 64 (whole.length + 1) whole).map fun block =>
    (piecesOf 4 17 block).map fun bytes => wordOf (ordered bytes)

/-- The bytes of a digest. The state after a block is added to the one before it. -/
def Method.digest (m : Method) (bytes : List Nat) : List Nat :=
  let last := (m.blocks bytes).foldl (fun state words =>
    (state.zip (m.absorb state words.toArray)).map fun (x, y) => (x + y) % bound) m.start
  last.flatMap fun x => if m.isLowFirst then lowBytes 4 x else (lowBytes 4 x).reverse

/-- The words that the older digests start from. -/
def startWords : List Nat := [0x67452301, 0xEFCDAB89, 0x98BADCFE, 0x10325476, 0xC3D2E1F0]

/-- The words of all rounds, of which the first are those of a block; the others follow from the
sixteen before them. -/
def schedule (count : Nat) (next : (Nat → Nat) → Nat) (words : Array Nat) : Array Nat :=
  (List.range (count - 16)).foldl (fun ws i => ws.push (next fun j => ws.getD (i + j) 0)) words

/-- The secure digest of 160 bits. -/
def sha1 : Method where
  isLowFirst := false
  start := startWords
  absorb state words :=
    let ws := schedule 80 (fun w => turn 1 (w 0 ^^^ w 2 ^^^ w 8 ^^^ w 13)) words
    (List.range 80).foldl (fun x i =>
      match x with
      | [a, b, c, d, e] =>
        let (f, k) :=
          if i < 20 then ((b &&& c) ||| (inverted b &&& d), 0x5A827999)
          else if i < 40 then (b ^^^ c ^^^ d, 0x6ED9EBA1)
          else if i < 60 then ((b &&& c) ||| (b &&& d) ||| (c &&& d), 0x8F1BBCDC)
          else (b ^^^ c ^^^ d, 0xCA62C1D6)
        [(turn 5 a + f + e + k + ws.getD i 0) % bound, a, turn 30 b, c, d]
      | x => x) state

/-- The first bits of sines. -/
def sines : Array Nat :=
  ((List.range 64).map fun i =>
    ((Float.ofNat (i + 1)).sin.abs * 4294967296.0).floor.toUInt64.toNat).toArray

/-- The fifth message digest. -/
def md5 : Method where
  isLowFirst := true
  start := startWords.take 4
  absorb state words :=
    (List.range 64).foldl (fun x i =>
      match x with
      | [a, b, c, d] =>
        let (f, j, turns) : Nat × Nat × List Nat := match i / 16 with
          | 0 => ((b &&& c) ||| (inverted b &&& d), i, [7, 12, 17, 22])
          | 1 => ((d &&& b) ||| (inverted d &&& c), 5 * i + 1, [5, 9, 14, 20])
          | 2 => (b ^^^ c ^^^ d, 3 * i + 5, [4, 11, 16, 23])
          | _ => (c ^^^ (b ||| inverted d), 7 * i, [6, 10, 15, 21])
        let t := (a + f + sines.getD i 0 + words.getD (j % 16) 0) % bound
        [d, (b + turn (turns.getD (i % 4) 0) t) % bound, b, c]
      | x => x) state

/-- The first primes. -/
def primes (count : Nat) : List Nat :=
  let isPrime (n : Nat) : Bool := (List.range n).all fun d => d < 2 || n % d != 0
  (((List.range 512).drop 2).filter isPrime).take count

/-- The largest number of which a power is not above another, found bit by bit. -/
def rootOf (power n : Nat) : Nat → Nat → Nat
  | 0, root => root
  | bit + 1, root =>
    let more := root + 1 <<< bit
    rootOf power n bit (if Nat.pow more power ≤ n then more else root)

/-- The first bits behind the point of the roots of the first primes. -/
def rootBits (power count : Nat) : List Nat :=
  (primes count).map fun p => rootOf power (p <<< (power * 32)) 38 0 % bound

/-- The constants of the secure digest of 256 bits. -/
def roots : Array Nat := (rootBits 3 64).toArray

/-- The secure digest of 256 bits. -/
def sha256 : Method where
  isLowFirst := false
  start := rootBits 2 8
  absorb state words :=
    let mixed (i j k x : Nat) : Nat := turn (32 - i) x ^^^ turn (32 - j) x ^^^ turn (32 - k) x
    let ws := schedule 64 (fun w =>
      let early := turn 25 (w 1) ^^^ turn 14 (w 1) ^^^ w 1 >>> 3
      let late := turn 15 (w 14) ^^^ turn 13 (w 14) ^^^ w 14 >>> 10
      (w 0 + early + w 9 + late) % bound) words
    (List.range 64).foldl (fun x i =>
      match x with
      | [a, b, c, d, e, f, g, h] =>
        let t := h + mixed 6 11 25 e + ((e &&& f) ^^^ (inverted e &&& g)) + roots.getD i 0 +
          ws.getD i 0
        let u := mixed 2 13 22 a + ((a &&& b) ^^^ (a &&& c) ^^^ (b &&& c))
        [(t + u) % bound, a, b, c, (d + t) % bound, e, f, g]
      | x => x) state

/-- What a byte makes of a remainder. -/
def divided (x b : Nat) : Nat :=
  (List.range 8).foldl (fun x _ =>
    if x &&& 0x80000000 = 0 then 2 * x else (2 * x) % bound ^^^ 0x04C11DB7) (x ^^^ b <<< 24)

/-- The remainder of a message and its length, as `cksum` shows it. -/
def remainderOf (bytes : List Nat) : Nat :=
  let length := ((lowBytes 8 bytes.length).reverse.dropWhile (· == 0)).reverse
  inverted ((bytes ++ length).foldl divided 0)

end SchemaCheck.Testing.Digest
