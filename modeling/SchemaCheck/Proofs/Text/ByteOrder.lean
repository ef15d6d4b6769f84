import SchemaCheck.Bytes

/-!
# Texts are ordered as their bytes are

The order of texts goes by code points. It is the order of their UTF-8 forms, byte by byte
(`octets_lt_octets`), since of two characters the one with the greater number has a greater byte at
the first place where their bytes differ (`charOctets_append_lt`).
-/

namespace SchemaCheck.Text

/-- The bytes of a text, as numbers. -/
def octets (s : String) : List Nat := (Bytes.ofString s).map UInt8.toNat

/-- The bytes of a character, as numbers. -/
def charOctets (c : Char) : List Nat := (String.utf8EncodeChar c).map UInt8.toNat

/-- The octets of a text are those of its characters, one after another. -/
theorem octets_eq (s : String) : octets s = s.toList.flatMap charOctets := by
  have hbytes : Bytes.ofString s = s.toList.flatMap String.utf8EncodeChar := by
    rw [Bytes.ofString, String.toUTF8, ← String.utf8Encode_toList, List.utf8Encode,
      List.data_toByteArray]
  rw [octets, hbytes, List.map_flatMap]
  rfl

/-- Texts are told apart by their octets. -/
theorem octets_inj {s t : String} : octets s = octets t ↔ s = t := by
  refine ⟨fun h => ?_, congrArg octets⟩
  have hbytes : Bytes.ofString s = Bytes.ofString t :=
    (List.map_inj_right fun _ _ => UInt8.toNat_inj.1).1 h
  have hread := congrArg Bytes.toString? hbytes
  rwa [Bytes.toString?_ofString, Bytes.toString?_ofString, Option.some_inj] at hread

/-- There are no characters beyond the last plane. -/
theorem toNat_lt (c : Char) : c.toNat < 0x110000 := by
  have hvalid : c.toNat < 0xD800 ∨ 0xDFFF < c.toNat ∧ c.toNat < 0x110000 := c.valid
  omega

/-- The bytes of a character by its number, six bits to each byte but the first. -/
theorem charOctets_eq (c : Char) : charOctets c =
    if c.toNat ≤ 0x7F then [c.toNat]
    else if c.toNat ≤ 0x7FF then [c.toNat / 0x40 + 0xC0, c.toNat % 0x40 + 0x80]
    else if c.toNat ≤ 0xFFFF then
      [c.toNat / 0x1000 + 0xE0, c.toNat / 0x40 % 0x40 + 0x80, c.toNat % 0x40 + 0x80]
    else [c.toNat / 0x40000 + 0xF0, c.toNat / 0x1000 % 0x40 + 0x80, c.toNat / 0x40 % 0x40 + 0x80,
      c.toNat % 0x40 + 0x80] := by
  have hlt := toNat_lt c
  show List.map UInt8.toNat (if c.toNat ≤ 127 then _ else if c.toNat ≤ 2047 then _ else
    if c.toNat ≤ 65535 then _ else _) = _
  split
  · simp; omega
  split
  · simp; omega
  split
  · simp; omega
  · simp; omega

/-- The character with the smaller number comes first, whatever follows it. -/
theorem charOctets_append_lt {c d : Char} (h : c < d) (as bs : List Nat) :
    charOctets c ++ as < charOctets d ++ bs := by
  have hlt : c.toNat < d.toNat := h
  have hd := toNat_lt d
  rw [charOctets_eq, charOctets_eq]
  generalize c.toNat = n at *
  generalize d.toNat = m at *
  repeat' split
  all_goals
    simp only [List.cons_append, List.nil_append, List.cons_lt_cons_iff]
    omega

/-- No character is written in no bytes. -/
theorem charOctets_ne_nil (c : Char) : charOctets c ≠ [] := by
  rw [charOctets_eq]
  repeat' split
  all_goals exact List.cons_ne_nil _ _

/-- Texts that come first by their characters come first by their octets: at the first character
that differs, its octets do. -/
theorem flatMap_charOctets_lt {cs ds : List Char} (h : List.Lex (· < ·) cs ds) :
    cs.flatMap charOctets < ds.flatMap charOctets := by
  induction h with
  | @nil d ds =>
    rw [List.flatMap_nil, List.flatMap_cons]
    cases hd : charOctets d with
    | nil => exact absurd hd (charOctets_ne_nil d)
    | cons b bs => exact List.nil_lt_cons _ _
  | @cons c cs ds _ ih =>
    rw [List.flatMap_cons, List.flatMap_cons]
    exact List.append_left_lt ih
  | rel h => exact charOctets_append_lt h _ _

/-- Texts are in the order of their bytes. -/
theorem octets_lt_octets {s t : String} : octets s < octets t ↔ s < t := by
  have hmono : ∀ {s t : String}, s < t → octets s < octets t := by
    intro s t h
    rw [octets_eq, octets_eq]
    exact flatMap_charOctets_lt h
  refine ⟨fun h => Decidable.byContradiction fun hlt => ?_, hmono⟩
  have hle : t ≤ s := String.not_lt.1 hlt
  by_cases heq : t = s
  · rw [heq] at h
    exact List.lt_irrefl _ h
  · exact List.lt_asymm h (hmono (Std.lt_of_le_of_ne hle heq))

end SchemaCheck.Text
