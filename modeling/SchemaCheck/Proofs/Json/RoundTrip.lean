import SchemaCheck.Json.Printer
import SchemaCheck.Proofs.Json.Grammar

/-!
# Reading back what was printed

What is printed for a value is one of its texts, as long as the value has no `decimal` in it
(`hasText_print`): a decimal number keeps its literal, which need not be one. So it reads as the
value (`parse?_print`), also with white space after it (`parse?_print_append`).
-/

namespace SchemaCheck.Json

mutual

/-- No number with a fraction or an exponent is in the value. No message writes one. -/
def IsPlain : Json → Prop
  | .decimal _ => False
  | .array items => ArePlain items
  | .object members => MembersPlain members
  | _ => True

/-- `IsPlain` over the items of an array. -/
def ArePlain : List Json → Prop
  | [] => True
  | j :: js => j.IsPlain ∧ ArePlain js

/-- `IsPlain` over the members of an object. -/
def MembersPlain : List (Bytes × Json) → Prop
  | [] => True
  | (_, j) :: ms => j.IsPlain ∧ MembersPlain ms

end

/-- `ArePlain` in the natural per-item form. -/
theorem arePlain_iff (js : List Json) : ArePlain js ↔ ∀ j ∈ js, j.IsPlain := by
  induction js with
  | nil => simp [ArePlain]
  | cons j js ih => simp [ArePlain, ih]

/-! ## Numbers -/

/-- The byte of a character below 256 has its number. -/
theorem toNat_ascii {c : Char} (h : c.toNat < 256) : (ascii c).toNat = c.toNat := by
  simpa [ascii] using h

/-- The bounds of a digit, as numbers. -/
theorem bounds_of_isDigit {c : Char} (h : c.isDigit = true) : 0x30 ≤ c.toNat ∧ c.toNat ≤ 0x39 := by
  simp only [Char.isDigit, Bool.and_eq_true, decide_eq_true_eq, UInt32.le_iff_toNat_le] at h
  exact h

/-- Digits stay digits as bytes. -/
theorem isDigit_ascii {c : Char} (h : c.isDigit = true) : isDigit (ascii c) = true := by
  obtain ⟨hlo, hhi⟩ := bounds_of_isDigit h
  simp only [isDigit, Bool.and_eq_true, decide_eq_true_eq, UInt8.le_iff_toNat_le,
    toNat_ascii (c := c) (by omega)]
  exact ⟨hlo, hhi⟩

/-- A decimal has nothing but digits. -/
theorem isDigit_of_mem_decimal {n : Nat} {b : UInt8} (h : b ∈ asciiText (Nat.toDigits 10 n)) :
    isDigit b = true := by
  obtain ⟨c, hc, rfl⟩ := List.mem_map.1 h
  exact isDigit_ascii (Nat.isDigit_of_mem_toDigits (by decide) (by decide) hc)

/-- Both ways to read the value of digits, from the left with a value so far. -/
theorem foldl_asciiText {cs : List Char} (h : ∀ c ∈ cs, c.isDigit = true) (n : Nat) :
    (asciiText cs).foldl (fun n d => n * 10 + (d.toNat - 0x30)) n = Nat.ofDigitChars 10 cs n := by
  induction cs generalizing n with
  | nil => rfl
  | cons c cs ih =>
    have hc := bounds_of_isDigit (h c (by simp))
    have hstep : n * 10 + ((ascii c).toNat - 0x30) = 10 * n + (c.toNat - '0'.toNat) := by
      rw [toNat_ascii (by omega), Nat.mul_comm]
      rfl
    rw [Nat.ofDigitChars_cons, ← ih fun d hd => h d (by simp [hd])]
    simp only [asciiText, List.map_cons, List.foldl_cons, hstep]

/-- The digits of a number have its value. -/
theorem digitsValue_decimal (n : Nat) : digitsValue (asciiText (Nat.toDigits 10 n)) = n := by
  rw [digitsValue, foldl_asciiText fun c hc =>
    Nat.isDigit_of_mem_toDigits (by decide) (by decide) hc]
  exact Nat.ofDigitChars_ten_toDigits

/-- Only zero begins with a zero. -/
theorem head?_toDigits_ne_zero {n : Nat} (h : 0 < n) : (Nat.toDigits 10 n).head? ≠ some '0' := by
  induction n using Nat.strongRecOn with
  | ind n ih =>
    rw [Nat.toDigits_eq_if (by decide)]
    split
    · next hlt =>
      intro h0
      have h0 : n.digitChar = '0' := by simpa using h0
      have hn := Nat.toNat_digitChar_of_lt_ten hlt
      rw [h0] at hn
      have : '0'.toNat = 48 := rfl
      omega
    · next hge =>
      have hn := ih (n / 10) (by omega) (by omega)
      rw [List.head?_append]
      cases hd : (Nat.toDigits 10 (n / 10)).head? with
      | none => simp at hd
      | some c => rwa [hd] at hn

/-- The digits of a number have no zero too many. -/
theorem wholeText_decimal (n : Nat) : WholeText (asciiText (Nat.toDigits 10 n)) := by
  refine ⟨⟨by simp [asciiText], fun b hb => isDigit_of_mem_decimal hb⟩, fun hhead => ?_⟩
  rcases Nat.eq_zero_or_pos n with rfl | hn
  · rfl
  · -- a positive number does not begin with a zero
    obtain ⟨c, hc, hzero⟩ : ∃ c, (Nat.toDigits 10 n).head? = some c ∧ ascii c = 0x30 := by
      simpa [asciiText] using hhead
    have hdigit := bounds_of_isDigit (Nat.isDigit_of_mem_toDigits (b := 10) (n := n) (c := c)
      (by decide) (by decide) (List.mem_of_mem_head? hc))
    have hchar : c = '0' := by
      have hnat := congrArg UInt8.toNat hzero
      rw [toNat_ascii (by omega)] at hnat
      exact Char.toNat_inj.1 hnat
    rw [hchar] at hc
    exact absurd hc (head?_toDigits_ne_zero hn)

/-- An integer is printed as a number, with no zero in front. -/
theorem numberText_printInt (i : Int) : NumberText (.integer i) (printInt i) := by
  have hvalue := digitsValue_decimal i.natAbs
  have hwhole := wholeText_decimal i.natAbs
  unfold printInt
  split
  · next hneg =>
    have htext := NumberText.negative hwhole (by omega)
    rwa [hvalue, show -(i.natAbs : Int) = i by omega] at htext
  · next hpos =>
    have htext := NumberText.natural hwhole
    rwa [hvalue, show (i.natAbs : Int) = i by omega] at htext

/-! ## Strings -/

/-- The escape of a control character is read as that character. -/
theorem hexUnit_hexDigit {n : Nat} (h : n < 0x20) :
    hexUnit 0x30 0x30 (hexDigit (n / 16)) (hexDigit (n % 16)) = some n := by
  revert n
  decide

/-- What is printed for a byte writes that byte. -/
theorem stringText_printByte (b : UInt8) {cs s : Bytes} (h : StringText cs s) :
    StringText (b :: cs) (printByte b ++ s) := by
  -- one goal for each clause of `printByte`
  have hescape : ∀ {e c : UInt8}, (b == c) = true → simpleEscape e = some c →
      StringText (b :: cs) ([0x5C, e] ++ s) := by
    intro e c hb he
    obtain rfl : b = c := eq_of_beq hb
    exact .escape he h
  unfold printByte
  split
  · next hb => exact hescape hb rfl
  split
  · next hb => exact hescape hb rfl
  split
  · next hb => exact hescape hb rfl
  split
  · next hb => exact hescape hb rfl
  split
  · next hb => exact hescape hb rfl
  split
  · next hb => exact hescape hb rfl
  split
  · next hb => exact hescape hb rfl
  split
  · next hb =>
    have hlt : b.toNat < 0x20 := by simpa [UInt8.lt_iff_toNat_lt] using hb
    have hcode : codeBytes b.toNat = [b] := by
      rw [codeBytes, if_pos (by omega)]
      simp
    have hunit := StringText.unit (hexUnit_hexDigit hlt) (by omega) h
    rwa [hcode] at hunit
  · next hquote hslash _ _ _ _ _ hcontrol =>
    exact .plain (UInt8.not_lt.1 hcontrol) (by simpa using hquote) (by simpa using hslash) h

/-- Whatever the content of a string is, its bytes are printed as a text of it, escaped or as they
are. -/
theorem stringText_print (content : Bytes) : StringText content (content.flatMap printByte) := by
  induction content with
  | nil => exact .nil
  | cons b content ih => exact stringText_printByte b ih

/-- A string is printed as a text of it. -/
theorem hasText_printString (content : Bytes) : HasText (.string content) (printString content) :=
  .string (stringText_print content)

/-! ## Values -/

/-- Items are printed with a comma between them. -/
theorem printItems_cons_cons (j k : Json) (js : List Json) :
    printItems (j :: k :: js) = j.print ++ 0x2C :: printItems (k :: js) := by
  rw [printItems]
  · rfl
  · simp

/-- Members are printed with a comma between them, each as its name and its value. -/
theorem printMembers_cons_cons (k : Bytes) (j : Json) (m : Bytes × Json)
    (ms : List (Bytes × Json)) :
    printMembers ((k, j) :: m :: ms)
      = printString k ++ 0x3A :: j.print ++ 0x2C :: printMembers (m :: ms) := by
  rw [printMembers]
  · rfl
  · simp

mutual

/-- What is printed for a value is a text of it. -/
theorem hasText_print : ∀ j : Json, j.IsPlain → HasText j j.print
  | .null, _ => .null
  | .bool true, _ => .boolTrue
  | .bool false, _ => .boolFalse
  | .integer i, _ => by
    rw [print]
    exact .number (numberText_printInt i)
  | .string content, _ => by
    rw [print]
    exact hasText_printString content
  | .array js, h => by
    rw [print]
    exact .array (itemsText_print js h)
  | .object ms, h => by
    rw [print]
    exact .object (membersText_print ms h)

/-- `hasText_print` over the items of an array. -/
theorem itemsText_print : ∀ js : List Json, ArePlain js → ItemsText js (printItems js)
  | [], _ => .none (fun _ hb => nomatch hb)
  | [j], h => by
    rw [printItems]
    exact .one (hasText_print j h.1)
  | j :: k :: js, h => by
    rw [printItems_cons_cons]
    exact .more (hasText_print j h.1) (itemsText_print (k :: js) h.2)

/-- `hasText_print` over the members of an object. -/
theorem membersText_print : ∀ ms : List (Bytes × Json), MembersPlain ms →
    MembersText ms (printMembers ms)
  | [], _ => .none (fun _ hb => nomatch hb)
  | [(name, j)], h => by
    rw [printMembers]
    exact .one (hasText_printString name) (hasText_print j h.1)
  | (name, j) :: m :: ms, h => by
    rw [printMembers_cons_cons, List.append_assoc]
    exact .more (hasText_printString name) (hasText_print j h.1) (membersText_print (m :: ms) h.2)

end

/-- What is printed for a value reads as the value, also with white space after it. -/
theorem parse?_print_append {j : Json} (h : j.IsPlain) {blank : Bytes}
    (hblank : ∀ b ∈ blank, isBlank b = true) : parse? (j.print ++ blank) = some j :=
  parse?_of_hasText ((hasText_print j h).append_blank hblank)

/-- What is printed for a value reads as the value. -/
theorem parse?_print {j : Json} (h : j.IsPlain) : parse? j.print = some j :=
  parse?_of_hasText (hasText_print j h)

end SchemaCheck.Json
