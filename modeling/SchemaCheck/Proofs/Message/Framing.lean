import SchemaCheck.Proofs.Message.Depth

/-!
# Messages on a line

A program writes one message and ends the line. A message is one line
(`Bytes.IsMessage.newline_not_mem`), and the end of the line makes no difference to whoever reads it
(`Codec.ofBytes_append_newline`). Requests are never blank, so a request that is sent is never taken
for a missing one (`CheckMessage.toBytes_isBlank`, `PageMessage.toBytes_isBlank`).
-/

namespace SchemaCheck

namespace Json

/-- The end of a line is escaped in strings. -/
theorem newline_not_mem_printString (content : Bytes) : 0x0A ∉ printString content := by
  have hdigits : ∀ n < 0x20, hexDigit (n / 16) ≠ 0x0A ∧ hexDigit (n % 16) ≠ 0x0A := by decide
  have hbyte : ∀ b : UInt8, 0x0A ∉ printByte b := by
    intro b
    unfold printByte
    -- one goal for each clause of `printByte`
    iterate 7
      split
      · decide
    split
    · next h =>
      obtain ⟨hhigh, hlow⟩ := hdigits b.toNat (by simpa [UInt8.lt_iff_toNat_lt] using h)
      simp [ascii, hhigh.symm, hlow.symm]
    · next hnewline _ _ _ => exact fun h => hnewline (by simpa using (List.mem_singleton.1 h).symm)
  simp [printString, hbyte]

/-- An integer is printed on one line. -/
theorem newline_not_mem_printInt (i : Int) : 0x0A ∉ printInt i := by
  have hdigits : ∀ n, 0x0A ∉ asciiText (Nat.toDigits 10 n) := fun n h => by
    have hdigit := isDigit_of_mem_decimal h
    exact absurd hdigit (by decide)
  unfold printInt
  split
  · exact List.not_mem_cons_of_ne_of_not_mem (by decide) (hdigits _)
  · exact hdigits _

mutual

/-- The text of a value is one line. -/
theorem newline_not_mem_print : ∀ j : Json, j.IsPlain → 0x0A ∉ j.print
  | .null, _ | .bool true, _ | .bool false, _ => by decide
  | .integer i, _ => newline_not_mem_printInt i
  | .string content, _ => newline_not_mem_printString content
  | .array items, h => by
    have hitems := newline_not_mem_printItems items h
    rw [print]
    simp [ascii, hitems]
  | .object members, h => by
    have hmembers := newline_not_mem_printMembers members h
    rw [print]
    simp [ascii, hmembers]

/-- The items of an array are printed on one line. -/
theorem newline_not_mem_printItems : ∀ js : List Json, ArePlain js → 0x0A ∉ printItems js
  | [], _ => by simp [printItems]
  | [j], h => by
    rw [printItems]
    exact newline_not_mem_print j h.1
  | j :: k :: js, h => by
    have hj := newline_not_mem_print j h.1
    have hjs := newline_not_mem_printItems (k :: js) h.2
    rw [printItems_cons_cons]
    simp [hj, hjs]

/-- The members of an object are printed on one line. -/
theorem newline_not_mem_printMembers : ∀ ms : List (Bytes × Json), MembersPlain ms →
    0x0A ∉ printMembers ms
  | [], _ => by simp [printMembers]
  | [(name, j)], h => by
    have hj := newline_not_mem_print j h.1
    rw [printMembers]
    simp [ascii, hj, newline_not_mem_printString]
  | (name, j) :: m :: ms, h => by
    have hj := newline_not_mem_print j h.1
    have hms := newline_not_mem_printMembers (m :: ms) h.2
    rw [printMembers_cons_cons]
    simp [hj, hms, newline_not_mem_printString]

end

end Json

/-- Whether bytes are one message: the text of one JSON value, as it is printed. -/
def Bytes.IsMessage (b : Bytes) : Prop := ∃ j : Json, j.IsPlain ∧ b = j.print

/-- A message is written on one line. -/
theorem Bytes.IsMessage.newline_not_mem {b : Bytes} (h : b.IsMessage) : 0x0A ∉ b := by
  obtain ⟨j, hj, rfl⟩ := h
  exact Json.newline_not_mem_print j hj

namespace Codec

variable {α β : Type}

/-- What a lawful codec writes is a message. -/
theorem Lawful.isMessage {c : Codec α} (h : c.Lawful) (a : α) : (c.toBytes a).IsMessage :=
  ⟨c.encode a, h.plain a, rfl⟩

/-- A message is read alike with and without the end of its line. -/
theorem ofBytes_append_newline (c : Codec α) {b : Bytes} (h : b.IsMessage) :
    c.ofBytes (b ++ [0x0A]) = c.ofBytes b := by
  obtain ⟨j, hj, rfl⟩ := h
  unfold ofBytes
  rw [Json.parse?_print_append hj (List.forall_mem_singleton.2 rfl), Json.parse?_print hj]

/-- A record is written from a brace on. -/
theorem record_toBytes_isBlank {members : Members β} {build : β → α} {parts : α → β} (a : α) :
    ((record members build parts).toBytes a).isBlank = false := by
  show (Json.print (.object _)).isBlank = false
  rw [Json.print]
  rfl

end Codec

/-- A request for a check is never blank. -/
theorem CheckMessage.toBytes_isBlank (m : CheckMessage) :
    (CheckMessage.codec.toBytes m).isBlank = false :=
  Codec.record_toBytes_isBlank m

/-- A request for a page is never blank. -/
theorem PageMessage.toBytes_isBlank (m : PageMessage) :
    (PageMessage.codec.toBytes m).isBlank = false :=
  Codec.record_toBytes_isBlank m

/-- Every fault that is sent is read back. -/
theorem FaultMessage.ofBytes_toBytes (m : FaultMessage) :
    FaultMessage.codec.ofBytes (FaultMessage.codec.toBytes m) = .ok m := by
  have hshallow : FaultMessage.codec.Shallow 1 :=
    Codec.record_shallow ⟨Codec.enumeration_shallow, Codec.string_shallow, trivial⟩
  exact FaultMessage.codec_lawful.reads (Nat.le_trans (hshallow m) (by decide))

end SchemaCheck
