/-!
# Byte strings

The payloads of calls and the values of options are bytes; this module ties them to text. A byte
string is the UTF-8 form of at most one text, and every text has one.
-/

namespace SchemaCheck

/-- A string of bytes. -/
abbrev Bytes := List UInt8

namespace Bytes

/-- The UTF-8 form of a text. -/
def ofString (s : String) : Bytes := s.toUTF8.data.toList

/-- The text whose UTF-8 form the bytes are, if they are well-formed. -/
def toString? (b : Bytes) : Option String := String.fromUTF8? ⟨b.toArray⟩

/-- The UTF-8 form of a text reads back as that text. -/
@[simp] theorem toString?_ofString (s : String) : toString? (ofString s) = some s := by
  have h : (⟨(ofString s).toArray⟩ : ByteArray) = s.toByteArray := by
    simp [ofString, String.toUTF8]
  unfold toString?
  rw [h, String.fromUTF8?, dif_pos s.isValidUTF8]
  rfl

/-- Bytes read as a text exactly when they are its UTF-8 form. -/
theorem toString?_eq_some_iff {b : Bytes} {s : String} : toString? b = some s ↔ ofString s = b := by
  constructor
  · intro h
    unfold toString? String.fromUTF8? at h
    split at h
    · injection h with h
      subst h
      simp [ofString, String.toUTF8, String.fromUTF8]
    · cases h
  · rintro rfl
    exact toString?_ofString s

/-- The white space of ASCII: space, tab, line feed, form feed and carriage return. -/
def isAsciiBlank (b : UInt8) : Bool :=
  b == 0x20 || b == 0x09 || b == 0x0A || b == 0x0C || b == 0x0D

/-- Whether nothing but ASCII white space is there. -/
def isBlank (b : Bytes) : Bool := b.all isAsciiBlank

/-- How many continuation bytes a lead byte asks for, with the range that the first of them must
lie in; a byte that leads nothing has no answer. -/
def leadByte (b : UInt8) : Option (Nat × UInt8 × UInt8) :=
  if 0xC2 ≤ b && b ≤ 0xDF then some (1, 0x80, 0xBF)
  else if b == 0xE0 then some (2, 0xA0, 0xBF)
  else if b == 0xED then some (2, 0x80, 0x9F)
  else if 0xE1 ≤ b && b ≤ 0xEF then some (2, 0x80, 0xBF)
  else if b == 0xF0 then some (3, 0x90, 0xBF)
  else if 0xF1 ≤ b && b ≤ 0xF3 then some (3, 0x80, 0xBF)
  else if b == 0xF4 then some (3, 0x80, 0x8F)
  else none

/-- Text of bytes that need not be UTF-8. `pending` are the bytes of an unfinished character, `left`
is how many are still to come and `low` to `high` is the range of the next. Each longest start of a
character that does not go on becomes one replacement character. -/
def lossyFrom (pending : Bytes) (left : Nat) (low high : UInt8) : Bytes → List Char
  | [] => if left = 0 then [] else [Char.ofNat 0xFFFD]
  | b :: rest =>
    if left ≠ 0 ∧ low ≤ b ∧ b ≤ high then
      if left = 1 then
        (((toString? (pending ++ [b])).getD "").toList) ++ lossyFrom [] 0 0x80 0xBF rest
      else lossyFrom (pending ++ [b]) (left - 1) 0x80 0xBF rest
    else
      let broken := if left = 0 then [] else [Char.ofNat 0xFFFD]
      if b < 0x80 then broken ++ Char.ofNat b.toNat :: lossyFrom [] 0 0x80 0xBF rest
      else match leadByte b with
        | some (n, lo, hi) => broken ++ lossyFrom [b] n lo hi rest
        | none => broken ++ Char.ofNat 0xFFFD :: lossyFrom [] 0 0x80 0xBF rest

/-- The text of the bytes, with a replacement character for each piece that is no UTF-8. -/
def toStringLossy (b : Bytes) : String := String.ofList (lossyFrom [] 0 0x80 0xBF b)

end Bytes

end SchemaCheck
