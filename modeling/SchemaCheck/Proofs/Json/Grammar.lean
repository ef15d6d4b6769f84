import Mathlib.Data.List.TakeDrop
import Mathlib.Data.List.TakeWhile
import SchemaCheck.Json.Parser

/-!
# The texts of JSON values

A value has many texts (`Json.HasText`): white space may stand around it and around its parts, a
character of a string may be escaped in several ways, and a number may have a fraction or an
exponent. The reader reads each of them as the value (`parse?_of_hasText`). A number is the one
value whose text does not show where it ends, so the lemmas on parts of a text ask that what follows
does not carry it on (`Ends`).
-/

namespace SchemaCheck.Json

/-! ## The grammar -/

/-- The content of a string and what is written for it between the quotes. The high half of a
surrogate pair stands for itself when no low half follows. -/
inductive StringText : Bytes → Bytes → Prop where
  | nil : StringText [] []
  | plain {b : UInt8} {cs s : Bytes} : 0x20 ≤ b → b ≠ 0x22 → b ≠ 0x5C → StringText cs s →
      StringText (b :: cs) (b :: s)
  | escape {e b : UInt8} {cs s : Bytes} : simpleEscape e = some b → StringText cs s →
      StringText (b :: cs) (0x5C :: e :: s)
  | unit {a b c d : UInt8} {n : Nat} {cs s : Bytes} : hexUnit a b c d = some n →
      ¬ (0xD800 ≤ n ∧ n ≤ 0xDBFF) → StringText cs s →
      StringText (codeBytes n ++ cs) (0x5C :: 0x75 :: a :: b :: c :: d :: s)
  | pair {a b c d a' b' c' d' : UInt8} {n m : Nat} {cs s : Bytes} : hexUnit a b c d = some n →
      0xD800 ≤ n ∧ n ≤ 0xDBFF → hexUnit a' b' c' d' = some m → 0xDC00 ≤ m ∧ m ≤ 0xDFFF →
      StringText cs s →
      StringText (codeBytes (0x10000 + (n - 0xD800) * 0x400 + (m - 0xDC00)) ++ cs)
        (0x5C :: 0x75 :: a :: b :: c :: d :: 0x5C :: 0x75 :: a' :: b' :: c' :: d' :: s)
  | lone {a b c d : UInt8} {n : Nat} {cs s : Bytes} : hexUnit a b c d = some n →
      0xD800 ≤ n ∧ n ≤ 0xDBFF → lowSurrogate? s = none → StringText cs s →
      StringText (codeBytes n ++ cs) (0x5C :: 0x75 :: a :: b :: c :: d :: s)

/-- One digit or more. -/
def Digits (ds : Bytes) : Prop := ds ≠ [] ∧ ∀ d ∈ ds, isDigit d = true

/-- Digits that begin with a zero only when it is the only one. -/
def WholeText (ds : Bytes) : Prop := Digits ds ∧ (ds.head? = some 0x30 → ds = [0x30])

/-- The fraction of a number, or nothing. -/
inductive FractionText : Bytes → Prop where
  | none : FractionText []
  | some {ds : Bytes} : Digits ds → FractionText (0x2E :: ds)

/-- The exponent of a number, or nothing. -/
inductive ExponentText : Bytes → Prop where
  | none : ExponentText []
  | some {e : UInt8} {sign ds : Bytes} : e = 0x65 ∨ e = 0x45 → sign ∈ [[], [0x2B], [0x2D]] →
      Digits ds → ExponentText (e :: (sign ++ ds))

/-- Numbers and their texts. A number is an integer when it has neither fraction nor exponent, and
is no negative zero. -/
inductive NumberText : Json → Bytes → Prop where
  | natural {ds : Bytes} : WholeText ds → NumberText (.integer (digitsValue ds)) ds
  | negative {ds : Bytes} : WholeText ds → digitsValue ds ≠ 0 →
      NumberText (.integer (-(digitsValue ds : Int))) (0x2D :: ds)
  | decimal {whole fraction exponent : Bytes} (negative : Bool) : WholeText whole →
      FractionText fraction → ExponentText exponent →
      (fraction = [] → exponent = [] → negative = true ∧ digitsValue whole = 0) →
      NumberText
        (.decimal ((if negative then [0x2D] else []) ++ whole ++ fraction ++ exponent))
        ((if negative then [0x2D] else []) ++ whole ++ fraction ++ exponent)

mutual

/-- Values and their texts. White space may stand before and after a text. -/
inductive HasText : Json → Bytes → Prop where
  | null : HasText .null [0x6E, 0x75, 0x6C, 0x6C]
  | boolTrue : HasText (.bool true) [0x74, 0x72, 0x75, 0x65]
  | boolFalse : HasText (.bool false) [0x66, 0x61, 0x6C, 0x73, 0x65]
  | number {j : Json} {s : Bytes} : NumberText j s → HasText j s
  | string {content s : Bytes} : StringText content s →
      HasText (.string content) (0x22 :: (s ++ [0x22]))
  | array {js : List Json} {s : Bytes} : ItemsText js s →
      HasText (.array js) (0x5B :: (s ++ [0x5D]))
  | object {ms : List (Bytes × Json)} {s : Bytes} : MembersText ms s →
      HasText (.object ms) (0x7B :: (s ++ [0x7D]))
  | before {j : Json} {b : UInt8} {s : Bytes} : isBlank b = true → HasText j s → HasText j (b :: s)
  | after {j : Json} {b : UInt8} {s : Bytes} : isBlank b = true → HasText j s →
      HasText j (s ++ [b])

/-- The items of an array and what is written for them between the brackets. -/
inductive ItemsText : List Json → Bytes → Prop where
  | none {blank : Bytes} : (∀ b ∈ blank, isBlank b = true) → ItemsText [] blank
  | one {j : Json} {s : Bytes} : HasText j s → ItemsText [j] s
  | more {j k : Json} {js : List Json} {s t : Bytes} : HasText j s → ItemsText (k :: js) t →
      ItemsText (j :: k :: js) (s ++ 0x2C :: t)

/-- The members of an object and what is written for them between the braces. A name is written as
the value of that content is. -/
inductive MembersText : List (Bytes × Json) → Bytes → Prop where
  | none {blank : Bytes} : (∀ b ∈ blank, isBlank b = true) → MembersText [] blank
  | one {name : Bytes} {j : Json} {s t : Bytes} : HasText (.string name) s → HasText j t →
      MembersText [(name, j)] (s ++ 0x3A :: t)
  | more {name : Bytes} {j : Json} {m : Bytes × Json} {ms : List (Bytes × Json)} {s t u : Bytes} :
      HasText (.string name) s → HasText j t → MembersText (m :: ms) u →
      MembersText ((name, j) :: m :: ms) (s ++ 0x3A :: (t ++ 0x2C :: u))

end

/-- More white space may stand after a text. -/
theorem HasText.append_blank {j : Json} {s blank : Bytes} (h : HasText j s)
    (hblank : ∀ b ∈ blank, isBlank b = true) : HasText j (s ++ blank) := by
  induction blank generalizing s with
  | nil => rwa [List.append_nil]
  | cons b blank ih =>
    obtain ⟨hb, hrest⟩ := List.forall_mem_cons.1 hblank
    rw [List.append_cons]
    exact ih (.after hb h) hrest

/-- What follows a number does not carry it on. -/
def Ends (s : Bytes) : Prop :=
  ∀ b ∈ s.head?, isDigit b = false ∧ b ≠ 0x2E ∧ b ≠ 0x65 ∧ b ≠ 0x45

/-- A comma, a bracket or a brace ends a number. -/
theorem ends_cons {b : UInt8} {s : Bytes} (h : b = 0x2C ∨ b = 0x5D ∨ b = 0x7D) : Ends (b :: s) := by
  intro c hc
  obtain rfl : b = c := by simpa using hc
  rcases h with rfl | rfl | rfl <;> decide

/-- White space ends a number. -/
theorem ends_blank {b : UInt8} {s : Bytes} (h : isBlank b = true) : Ends (b :: s) := by
  intro c hc
  obtain rfl : b = c := by simpa using hc
  simp only [isBlank, Bool.or_eq_true, beq_iff_eq] at h
  rcases h with ((rfl | rfl) | rfl) | rfl <;> decide

/-! ## Numbers -/

/-- Digits run up to what is none. -/
theorem digits?_append {ds rest : Bytes} (h : Digits ds)
    (hr : ∀ b ∈ rest.head?, isDigit b = false) : digits? (ds ++ rest) = some (ds, rest) := by
  have hspan : (ds ++ rest).span isDigit = (ds, rest) := by
    rw [List.span_eq_takeWhile_dropWhile, List.takeWhile_append_of_pos h.2,
      List.dropWhile_append_of_pos h.2]
    cases rest with
    | nil => simp
    | cons b rest => simp [hr b rfl]
  unfold digits?
  rw [hspan]
  split
  · next heq => exact absurd (congrArg Prod.fst heq) h.1
  · rfl

/-- The whole part of a number is read up to what is no digit. -/
theorem wholeDigits?_append {ds rest : Bytes} (h : WholeText ds)
    (hr : ∀ b ∈ rest.head?, isDigit b = false) : wholeDigits? (ds ++ rest) = some (ds, rest) := by
  unfold wholeDigits?
  rw [digits?_append h.1 hr]
  split
  · next d ds' s heq =>
    obtain ⟨rfl, rfl⟩ := Prod.mk.inj (Option.some.inj heq)
    cases h.2 rfl
  · rfl

/-- A fraction is read up to what is no digit; if there is none, no point may follow. -/
theorem fraction?_append {fraction rest : Bytes} (h : FractionText fraction)
    (hr : ∀ b ∈ rest.head?, isDigit b = false ∧ b ≠ 0x2E) :
    fraction? (fraction ++ rest) = some (fraction, rest) := by
  cases h with
  | none =>
    rw [List.nil_append]
    unfold fraction?
    split
    · exact absurd rfl (hr 0x2E rfl).2
    · rfl
  | some hds =>
    rw [List.cons_append, fraction?, digits?_append hds fun b hb => (hr b hb).1]
    rfl

/-- A digit is no byte outside the digits. -/
theorem ne_of_isDigit {b c : UInt8} (hb : isDigit b = true) (hc : isDigit c = false) : b ≠ c := by
  rintro rfl
  rw [hb] at hc
  cases hc

/-- Digits begin with a digit. -/
theorem Digits.eq_cons {ds : Bytes} (h : Digits ds) :
    ∃ d ds', ds = d :: ds' ∧ isDigit d = true := by
  obtain ⟨hne, hall⟩ := h
  cases ds with
  | nil => exact absurd rfl hne
  | cons d ds => exact ⟨d, ds, rfl, hall d List.mem_cons_self⟩

/-- The sign of an exponent, or none, is read before its digits. -/
theorem exponentSign_append {sign ds rest : Bytes} (h : sign ∈ [[], [0x2B], [0x2D]])
    (hds : Digits ds) : exponentSign (sign ++ ds ++ rest) = (sign, ds ++ rest) := by
  obtain ⟨d, ds, rfl, hd⟩ := hds.eq_cons
  simp only [List.mem_cons, List.not_mem_nil, or_false] at h
  rcases h with rfl | rfl | rfl
  · have hplus : d ≠ 0x2B := ne_of_isDigit hd (by decide)
    have hminus : d ≠ 0x2D := ne_of_isDigit hd (by decide)
    simp only [List.nil_append, List.cons_append]
    unfold exponentSign
    split
    · next heq => exact absurd (List.cons.inj heq).1 hplus
    · next heq => exact absurd (List.cons.inj heq).1 hminus
    · rfl
  · rfl
  · rfl

/-- An exponent, or none, is read up to what ends a number. -/
theorem exponent?_append {exponent rest : Bytes} (h : ExponentText exponent) (hr : Ends rest) :
    exponent? (exponent ++ rest) = some (exponent, rest) := by
  cases h with
  | none =>
    cases rest with
    | nil => rfl
    | cons b rest =>
      obtain ⟨-, -, hl, hu⟩ := hr b rfl
      simp [exponent?, hl, hu]
  | @some e sign ds he hsign hds =>
    have hmark : (e == 0x65 || e == 0x45) = true := by simpa using he
    simp only [List.cons_append, exponent?, hmark, if_true, exponentSign_append hsign hds,
      digits?_append hds fun b hb => (hr b hb).1]
    rfl

/-- A number without a minus is read part by part: no part begins as the one before it goes on. -/
theorem unsignedNumber?_append {whole fraction exponent rest : Bytes} (negative : Bool)
    (hwhole : WholeText whole) (hfraction : FractionText fraction)
    (hexponent : ExponentText exponent) (hr : Ends rest) :
    unsignedNumber? negative (whole ++ fraction ++ exponent ++ rest) =
      if fraction.isEmpty && exponent.isEmpty && !(negative && digitsValue whole == 0) then
        some (.integer (if negative then -(digitsValue whole : Int) else digitsValue whole), rest)
      else some (.decimal ((if negative then [0x2D] else []) ++ whole ++ fraction ++ exponent),
        rest) := by
  have hafter : ∀ b ∈ (exponent ++ rest).head?, isDigit b = false ∧ b ≠ 0x2E := by
    cases hexponent with
    | none => exact fun b hb => ⟨(hr b hb).1, (hr b hb).2.1⟩
    | some he _ _ =>
      intro b hb
      obtain rfl : _ = b := by simpa using hb
      rcases he with rfl | rfl <;> decide
  have hdot : ∀ b ∈ (fraction ++ (exponent ++ rest)).head?, isDigit b = false := by
    cases hfraction with
    | none => exact fun b hb => (hafter b hb).1
    | some _ =>
      intro b hb
      obtain rfl : _ = b := by simpa using hb
      decide
  rw [List.append_assoc, List.append_assoc]
  simp only [unsignedNumber?, wholeDigits?_append hwhole hdot, fraction?_append hfraction hafter,
    exponent?_append hexponent hr, Option.bind_eq_bind, Option.bind_some]

/-- The first byte of a number is a digit or a minus. -/
theorem NumberText.eq_cons {j : Json} {s : Bytes} (h : NumberText j s) :
    ∃ b t, s = b :: t ∧ (isDigit b = true ∨ b = 0x2D) := by
  cases h with
  | natural hwhole =>
    obtain ⟨d, ds, rfl, hd⟩ := hwhole.1.eq_cons
    exact ⟨d, ds, rfl, .inl hd⟩
  | negative => exact ⟨_, _, rfl, .inr rfl⟩
  | decimal negative hwhole =>
    obtain ⟨d, ds, rfl, hd⟩ := hwhole.1.eq_cons
    cases negative with
    | true => exact ⟨_, _, rfl, .inr rfl⟩
    | false => exact ⟨_, _, rfl, .inl hd⟩

/-- A number that begins with a digit is read as one without a minus. -/
theorem number?_whole {whole : Bytes} (h : WholeText whole) (rest : Bytes) :
    number? (whole ++ rest) = unsignedNumber? false (whole ++ rest) := by
  obtain ⟨d, ds, rfl, hd⟩ := h.1.eq_cons
  have hminus : d ≠ 0x2D := ne_of_isDigit hd (by decide)
  rw [List.cons_append]
  unfold number?
  split
  · next heq => exact absurd (List.cons.inj heq).1 hminus
  · rfl

/-- A number is read up to what ends it. -/
theorem number?_append {j : Json} {s rest : Bytes} (h : NumberText j s) (hr : Ends rest) :
    number? (s ++ rest) = some (j, rest) := by
  cases h with
  | natural hwhole =>
    have hread := unsignedNumber?_append false hwhole .none .none hr
    rw [List.append_nil, List.append_nil] at hread
    rw [number?_whole hwhole rest, hread]
    rfl
  | negative hwhole hne =>
    have hread := unsignedNumber?_append true hwhole .none .none hr
    rw [List.append_nil, List.append_nil] at hread
    exact Eq.trans hread (by simp [hne])
  | @decimal whole fraction exponent negative hwhole hfraction hexponent hzero =>
    have hdecimal : (fraction.isEmpty && exponent.isEmpty &&
        !(negative && digitsValue whole == 0)) = false := by
      rw [Bool.eq_false_iff]
      simp only [ne_eq, Bool.and_eq_true, List.isEmpty_iff, Bool.not_eq_true']
      rintro ⟨⟨hf, he⟩, hvalue⟩
      obtain ⟨rfl, hz⟩ := hzero hf he
      simp [hz] at hvalue
    have hread := unsignedNumber?_append negative hwhole hfraction hexponent hr
    rw [hdecimal, if_neg Bool.false_ne_true] at hread
    cases negative with
    | true => exact hread
    | false =>
      simp only [Bool.false_eq_true, if_false, List.nil_append, List.append_assoc] at hread ⊢
      exact (number?_whole hwhole _).trans hread

/-! ## Strings -/

/-- A string goes on after an escape. -/
theorem stringBody_escape {fuel : Nat} {s t c cs rest : Bytes} (h : Json.escape s = some (c, t))
    (ht : stringBody fuel t = some (cs, rest)) :
    stringBody (fuel + 1) (0x5C :: s) = some (c ++ cs, rest) := by
  have hquote : ((0x5C : UInt8) == 0x22) = false := rfl
  simp only [stringBody, hquote, beq_self_eq_true, Bool.false_eq_true, if_false, if_true, h, ht,
    Option.bind_eq_bind, Option.bind_some]

/-- An escape of one letter is none of a number. -/
theorem escape_simple {e b : UInt8} (h : simpleEscape e = some b) (s : Bytes) :
    Json.escape (e :: s) = some ([b], s) := by
  have he : e ≠ 0x75 := by
    rintro rfl
    cases h
  unfold Json.escape
  split
  · next heq => exact absurd (List.cons.inj heq).1 he
  · next heq =>
    obtain ⟨rfl, rfl⟩ := List.cons.inj heq
    rw [h]
    rfl
  · next heq => cases heq

/-- An escape by number stands for the code point with this number, unless it is the high half of a
surrogate pair. -/
theorem escape_unit {a b c d : UInt8} {n : Nat} (h : hexUnit a b c d = some n)
    (hn : ¬ (0xD800 ≤ n ∧ n ≤ 0xDBFF)) (s : Bytes) :
    Json.escape (0x75 :: a :: b :: c :: d :: s) = some (codeBytes n, s) := by
  have hlow : (0xD800 ≤ n && n ≤ 0xDBFF) = false := by
    rw [Bool.eq_false_iff]
    simpa using hn
  simp only [Json.escape, h, Option.bind_eq_bind, Option.bind_some, hlow, Bool.false_eq_true,
    if_false]

/-- The high half of a surrogate pair is read with what follows it. -/
theorem escape_high {a b c d : UInt8} {n : Nat} (h : hexUnit a b c d = some n)
    (hn : 0xD800 ≤ n ∧ n ≤ 0xDBFF) (s : Bytes) :
    Json.escape (0x75 :: a :: b :: c :: d :: s) = some (match lowSurrogate? s with
      | some (m, t) => (codeBytes (0x10000 + (n - 0xD800) * 0x400 + (m - 0xDC00)), t)
      | none => (codeBytes n, s)) := by
  have hhigh : (0xD800 ≤ n && n ≤ 0xDBFF) = true := by simpa using hn
  simp only [Json.escape, h, Option.bind_eq_bind, Option.bind_some, hhigh, if_true]
  cases lowSurrogate? s <;> simp only

/-- The escape of a unit is the low half of a surrogate pair just when its number is in their range.
-/
theorem lowSurrogate?_unit {a b c d : UInt8} {m : Nat} (h : hexUnit a b c d = some m)
    (s : Bytes) : lowSurrogate? (0x5C :: 0x75 :: a :: b :: c :: d :: s) =
      if 0xDC00 ≤ m ∧ m ≤ 0xDFFF then some (m, s) else none := by
  rw [lowSurrogate?, h]
  simp only [Bool.and_eq_true, decide_eq_true_eq]

/-- What follows a string makes no low half of what is in it. -/
theorem StringText.lowSurrogate?_append {cs s : Bytes} (h : StringText cs s)
    (hs : lowSurrogate? s = none) (rest : Bytes) : lowSurrogate? (s ++ 0x22 :: rest) = none := by
  cases h with
  | nil => rfl
  | plain _ _ hb =>
    rw [List.cons_append]
    unfold lowSurrogate?
    split
    · next heq => exact absurd (List.cons.inj heq).1 hb
    · rfl
  | @escape e _ _ _ he =>
    have he : e ≠ 0x75 := by
      rintro rfl
      cases he
    rw [List.cons_append, List.cons_append]
    unfold lowSurrogate?
    split
    · next heq => exact absurd (List.cons.inj (List.cons.inj heq).2).1 he
    · rfl
  | unit h | pair h | lone h =>
    rw [lowSurrogate?_unit h] at hs
    simp only [List.cons_append]
    rw [lowSurrogate?_unit h]
    split at hs
    · cases hs
    · next hrange => rw [if_neg hrange]

/-- A string is read up to the quote that closes it, with a step for every byte of it. -/
theorem stringBody_append {cs s : Bytes} (h : StringText cs s) {fuel : Nat} (rest : Bytes)
    (hf : s.length < fuel) : stringBody fuel (s ++ 0x22 :: rest) = some (cs, rest) := by
  induction h generalizing fuel with
  | nil =>
    obtain ⟨n, rfl⟩ := Nat.exists_eq_add_one.2 (Nat.zero_lt_of_lt hf)
    simp [stringBody]
  | plain hlo hquote hslash _ ih =>
    obtain ⟨n, rfl⟩ := Nat.exists_eq_add_one.2 (Nat.zero_lt_of_lt hf)
    have hs := ih (Nat.lt_of_succ_lt_succ hf)
    simp [stringBody, hquote, hslash, UInt8.not_lt.2 hlo, hs]
  | escape he _ ih =>
    obtain ⟨n, rfl⟩ := Nat.exists_eq_add_one.2 (Nat.zero_lt_of_lt hf)
    simp only [List.length_cons] at hf
    exact stringBody_escape (escape_simple he _) (ih (by omega))
  | unit hn hrange _ ih =>
    obtain ⟨n, rfl⟩ := Nat.exists_eq_add_one.2 (Nat.zero_lt_of_lt hf)
    simp only [List.length_cons] at hf
    exact stringBody_escape (escape_unit hn hrange _) (ih (by omega))
  | pair hn hhigh hm hlow _ ih =>
    obtain ⟨n, rfl⟩ := Nat.exists_eq_add_one.2 (Nat.zero_lt_of_lt hf)
    simp only [List.length_cons, List.cons_append] at hf ⊢
    refine stringBody_escape ?_ (ih (by omega))
    rw [escape_high hn hhigh, lowSurrogate?_unit hm, if_pos hlow]
  | lone hn hhigh hlow hs ih =>
    obtain ⟨n, rfl⟩ := Nat.exists_eq_add_one.2 (Nat.zero_lt_of_lt hf)
    simp only [List.length_cons, List.cons_append] at hf ⊢
    refine stringBody_escape ?_ (ih (by omega))
    rw [escape_high hn hhigh, hs.lowSurrogate?_append hlow]

/-- A string is read up to the quotation mark that closes it. -/
theorem string?_append {cs s : Bytes} (h : StringText cs s) (rest : Bytes) :
    string? (0x22 :: (s ++ 0x22 :: rest)) = some (cs, rest) :=
  stringBody_append h rest (by rw [List.length_append]; omega)

/-! ## White space -/

/-- A text that starts with no white space is left as it is. -/
theorem skipBlank_cons {b : UInt8} (s : Bytes) (h : isBlank b = false) :
    skipBlank (b :: s) = b :: s := by
  simp [skipBlank, h]

/-- White space is skipped one by one. -/
theorem skipBlank_blank {b : UInt8} (s : Bytes) (h : isBlank b = true) :
    skipBlank (b :: s) = skipBlank s := by
  simp [skipBlank, h]

/-- White space is skipped, however much there is. -/
theorem skipBlank_append {blank : Bytes} (h : ∀ b ∈ blank, isBlank b = true) (s : Bytes) :
    skipBlank (blank ++ s) = skipBlank s :=
  List.dropWhile_append_of_pos h

/-- After white space was skipped there is none to skip. -/
theorem skipBlank_skipBlank (s : Bytes) : skipBlank (skipBlank s) = skipBlank s := by
  induction s with
  | nil => rfl
  | cons b s ih =>
    cases hb : isBlank b with
    | true => rw [skipBlank_blank s hb, ih]
    | false => rw [skipBlank_cons s hb, skipBlank_cons s hb]

/-- White space before a value is passed over. -/
theorem value?_skipBlank (fuel : Nat) (s : Bytes) : value? fuel (skipBlank s) = value? fuel s := by
  cases fuel with
  | zero => rw [value?, value?]
  | succ fuel => rw [value?, value?, skipBlank_skipBlank]

/-- White space before the items of an array makes no difference. -/
theorem items?_skipBlank (fuel : Nat) (s : Bytes) : items? fuel (skipBlank s) = items? fuel s := by
  cases fuel with
  | zero => rw [items?, items?]
  | succ fuel => rw [items?, items?, value?_skipBlank]

/-- White space before the members of an object makes no difference. -/
theorem members?_skipBlank (fuel : Nat) (s : Bytes) :
    members? fuel (skipBlank s) = members? fuel s := by
  cases fuel with
  | zero => rw [members?, members?]
  | succ fuel => rw [members?, members?, skipBlank_skipBlank]

/-! ## Values -/

/-- A value that is neither array nor object is read as a scalar. -/
theorem value?_scalar {fuel : Nat} {b : UInt8} {s : Bytes} (hb : isBlank b = false)
    (ha : b ≠ 0x5B) (ho : b ≠ 0x7B) : value? (fuel + 1) (b :: s) = scalar? (b :: s) := by
  rw [value?, skipBlank_cons s hb]
  split
  · next h => exact absurd (List.cons.inj h).1 ha
  · next h => exact absurd (List.cons.inj h).1 ho
  · rfl

/-- The first byte of a number is no white space. -/
theorem NumberText.isBlank_eq_false {b : UInt8} (h : isDigit b = true ∨ b = 0x2D) :
    isBlank b = false := by
  rcases h with h | rfl
  · have htab : b ≠ 0x20 ∧ b ≠ 0x09 ∧ b ≠ 0x0A ∧ b ≠ 0x0D := by
      refine ⟨?_, ?_, ?_, ?_⟩ <;> exact ne_of_isDigit h (by decide)
    simp [isBlank, htab]
  · decide

/-- The first byte of a number is that of no other value, and closes no array or object. -/
theorem NumberText.ne_of_head {b c : UInt8} (h : isDigit b = true ∨ b = 0x2D)
    (hc : isDigit c = false) (hminus : c ≠ 0x2D) : b ≠ c := by
  rcases h with h | rfl
  · exact ne_of_isDigit h hc
  · exact hminus.symm

/-- A value that begins as a number does is read as one. -/
theorem value?_number {fuel : Nat} {j : Json} {s rest : Bytes} (h : NumberText j s)
    (hr : Ends rest) : value? (fuel + 1) (s ++ rest) = some (j, rest) := by
  have hnumber := number?_append h hr
  obtain ⟨b, s, rfl, hb⟩ := h.eq_cons
  have hne : ∀ c : UInt8, isDigit c = false → c ≠ 0x2D → b ≠ c := fun c =>
    NumberText.ne_of_head hb
  rw [List.cons_append] at hnumber ⊢
  rw [value?_scalar (NumberText.isBlank_eq_false hb) (hne _ (by decide) (by decide))
    (hne _ (by decide) (by decide)), scalar?]
  simpa only [beq_eq_false_iff_ne.2 (hne 0x22 (by decide) (by decide)),
    beq_eq_false_iff_ne.2 (hne 0x6E (by decide) (by decide)),
    beq_eq_false_iff_ne.2 (hne 0x74 (by decide) (by decide)),
    beq_eq_false_iff_ne.2 (hne 0x66 (by decide) (by decide)), Bool.false_eq_true, if_false]
    using hnumber

/-- A value that begins with a quotation mark is read as a string. -/
theorem value?_string {fuel : Nat} {content s : Bytes} (h : StringText content s) (rest : Bytes) :
    value? (fuel + 1) (0x22 :: (s ++ 0x22 :: rest)) = some (.string content, rest) := by
  rw [value?_scalar (by decide) (by decide) (by decide)]
  show (string? _).map _ = _
  rw [string?_append h]
  rfl

/-- After white space the text of a value has a first byte, which closes no array or object. -/
theorem HasText.skipBlank_eq_cons : ∀ {j : Json} {s : Bytes}, HasText j s →
    ∃ b t, (∀ rest, skipBlank (s ++ rest) = b :: (t ++ rest)) ∧ b ≠ 0x5D ∧ b ≠ 0x7D
  | _, _, .null | _, _, .boolTrue | _, _, .boolFalse =>
    ⟨_, _, fun _ => skipBlank_cons _ (by decide), by decide, by decide⟩
  | _, _, .number h => by
    obtain ⟨b, t, rfl, hb⟩ := h.eq_cons
    exact ⟨b, t, fun rest => skipBlank_cons _ (NumberText.isBlank_eq_false hb),
      NumberText.ne_of_head hb (by decide) (by decide),
      NumberText.ne_of_head hb (by decide) (by decide)⟩
  | _, _, .string _ | _, _, .array _ | _, _, .object _ =>
    ⟨_, _, fun _ => skipBlank_cons _ (by decide), by decide, by decide⟩
  | _, _, .before hb h => by
    obtain ⟨c, t, ht, hc⟩ := h.skipBlank_eq_cons
    exact ⟨c, t, fun rest => (skipBlank_blank _ hb).trans (ht rest), hc⟩
  | _, _, .after (b := b) hb h => by
    obtain ⟨c, t, ht, hc⟩ := h.skipBlank_eq_cons
    refine ⟨c, t ++ [b], fun rest => ?_, hc⟩
    rw [List.append_assoc, ht, List.append_assoc]

/-- A name is read, and what is left begins with the white space after it. -/
theorem HasText.string?_skipBlank : ∀ {j : Json} {s : Bytes}, HasText j s →
    ∀ {name : Bytes}, j = .string name → ∀ rest,
    ∃ after, string? (skipBlank (s ++ rest)) = some (name, after) ∧
      skipBlank after = skipBlank rest
  | _, _, .null, _, hj, _ | _, _, .boolTrue, _, hj, _ | _, _, .boolFalse, _, hj, _
  | _, _, .array _, _, hj, _ | _, _, .object _, _, hj, _ => by cases hj
  | _, _, .number h, _, hj, _ => by
    subst hj
    cases h
  | _, _, .string h, _, hj, rest => by
    cases hj
    refine ⟨rest, ?_, rfl⟩
    rw [List.cons_append, skipBlank_cons _ (by decide), List.append_assoc]
    exact string?_append h rest
  | _, _, .before hb h, _, hj, rest => by
    rw [List.cons_append, skipBlank_blank _ hb]
    exact h.string?_skipBlank hj rest
  | _, _, .after (b := b) hb h, _, hj, rest => by
    obtain ⟨after, hread, hafter⟩ := h.string?_skipBlank hj (b :: rest)
    refine ⟨after, ?_, ?_⟩
    · rw [List.append_assoc]
      exact hread
    · rw [hafter, skipBlank_blank rest hb]

/-- The items of an array begin as the first of them does. -/
theorem ItemsText.skipBlank_eq_cons {j : Json} {js : List Json} {s : Bytes}
    (h : ItemsText (j :: js) s) :
    ∃ b t, (∀ rest, skipBlank (s ++ rest) = b :: (t ++ rest)) ∧ b ≠ 0x5D := by
  cases h with
  | one hj =>
    obtain ⟨b, t, ht, hb, -⟩ := hj.skipBlank_eq_cons
    exact ⟨b, t, ht, hb⟩
  | @more _ _ _ s u hj _ =>
    obtain ⟨b, t, ht, hb, -⟩ := hj.skipBlank_eq_cons
    refine ⟨b, t ++ 0x2C :: u, fun rest => ?_, hb⟩
    rw [List.append_assoc, ht, List.append_assoc]

/-- The members of an object begin as the first name does. -/
theorem MembersText.skipBlank_eq_cons {m : Bytes × Json} {ms : List (Bytes × Json)} {s : Bytes}
    (h : MembersText (m :: ms) s) :
    ∃ b t, (∀ rest, skipBlank (s ++ rest) = b :: (t ++ rest)) ∧ b ≠ 0x7D := by
  have hfirst : ∃ name s' u, HasText (.string name) s' ∧ s = s' ++ u := by
    cases h with
    | one hname _ => exact ⟨_, _, _, hname, rfl⟩
    | more hname _ _ => exact ⟨_, _, _, hname, rfl⟩
  obtain ⟨name, s', u, hname, rfl⟩ := hfirst
  obtain ⟨b, t, ht, -, hb⟩ := hname.skipBlank_eq_cons
  refine ⟨b, t ++ u, fun rest => ?_, hb⟩
  rw [List.append_assoc, ht, List.append_assoc]

/-- An array is read when its items are. -/
theorem value?_array {fuel : Nat} {js : List Json} {s rest : Bytes} (h : ItemsText js s)
    (hread : js ≠ [] → items? fuel (s ++ 0x5D :: rest) = some (js, rest)) :
    value? (fuel + 1) (0x5B :: (s ++ 0x5D :: rest)) = some (.array js, rest) := by
  rw [value?, skipBlank_cons _ (by decide)]
  cases js with
  | nil =>
    cases h with
    | none hblank =>
      simp only [skipBlank_append hblank, skipBlank_cons rest (show isBlank 0x5D = false by decide)]
  | cons j js =>
    obtain ⟨b, t, ht, hb⟩ := h.skipBlank_eq_cons
    have hitems := hread (List.cons_ne_nil j js)
    rw [← items?_skipBlank, ht] at hitems
    simp only [ht]
    split
    · next heq => exact absurd (List.cons.inj heq).1 hb
    · rw [hitems]
      rfl

/-- An object is read when its members are. -/
theorem value?_object {fuel : Nat} {ms : List (Bytes × Json)} {s rest : Bytes}
    (h : MembersText ms s)
    (hread : ms ≠ [] → members? fuel (s ++ 0x7D :: rest) = some (ms, rest)) :
    value? (fuel + 1) (0x7B :: (s ++ 0x7D :: rest)) = some (.object ms, rest) := by
  rw [value?, skipBlank_cons _ (by decide)]
  cases ms with
  | nil =>
    cases h with
    | none hblank =>
      simp only [skipBlank_append hblank, skipBlank_cons rest (show isBlank 0x7D = false by decide)]
  | cons m ms =>
    obtain ⟨b, t, ht, hb⟩ := h.skipBlank_eq_cons
    have hmembers := hread (List.cons_ne_nil m ms)
    rw [← members?_skipBlank, ht] at hmembers
    simp only [ht]
    split
    · next heq => exact absurd (List.cons.inj heq).1 hb
    · rw [hmembers]
      rfl

section

variable {fuel : Nat} {name s t rest u : Bytes} {j : Json} (hname : HasText (.string name) s)
  (hread : ∃ after, value? fuel (t ++ rest) = some (j, after) ∧ skipBlank after = skipBlank rest)

include hname hread

/-- A member is the last when its value is read up to the brace that closes the object. -/
theorem members?_last (hclose : skipBlank rest = 0x7D :: u) :
    members? (fuel + 1) (s ++ 0x3A :: (t ++ rest)) = some ([(name, j)], u) := by
  obtain ⟨after, hstring, hafter⟩ := hname.string?_skipBlank rfl (0x3A :: (t ++ rest))
  obtain ⟨after', hvalue, hafter'⟩ := hread
  rw [skipBlank_cons _ (by decide)] at hafter
  rw [members?, hstring]
  simp only [Option.bind_eq_bind, Option.bind_some, hafter, hvalue, hafter', hclose]

/-- Members follow when the value is read up to a comma. -/
theorem members?_more {ms : List (Bytes × Json)} {v : Bytes} (hcomma : skipBlank rest = 0x2C :: u)
    (hrest : members? fuel u = some (ms, v)) :
    members? (fuel + 1) (s ++ 0x3A :: (t ++ rest)) = some ((name, j) :: ms, v) := by
  obtain ⟨after, hstring, hafter⟩ := hname.string?_skipBlank rfl (0x3A :: (t ++ rest))
  obtain ⟨after', hvalue, hafter'⟩ := hread
  rw [skipBlank_cons _ (by decide)] at hafter
  rw [members?, hstring]
  simp only [Option.bind_eq_bind, Option.bind_some, hafter, hvalue, hafter', hcomma, hrest]

end

mutual

/-- A text of a value, with a step for every byte of it, reads as the value. What is left begins
with the white space after the text. -/
theorem HasText.value?_append : ∀ {j : Json} {s : Bytes}, HasText j s →
    ∀ (fuel : Nat) (rest : Bytes), Ends rest → s.length ≤ fuel →
    ∃ after, value? fuel (s ++ rest) = some (j, after) ∧ skipBlank after = skipBlank rest
  | _, _, h, 0, _, _, hf => by
    obtain ⟨b, t, ht, -⟩ := h.skipBlank_eq_cons
    rw [List.length_eq_zero_iff.1 (Nat.le_zero.1 hf)] at ht
    cases ht []
  | _, _, .null, fuel + 1, rest, _, _ =>
    ⟨rest, value?_scalar (b := 0x6E) (by decide) (by decide) (by decide), rfl⟩
  | _, _, .boolTrue, fuel + 1, rest, _, _ =>
    ⟨rest, value?_scalar (b := 0x74) (by decide) (by decide) (by decide), rfl⟩
  | _, _, .boolFalse, fuel + 1, rest, _, _ =>
    ⟨rest, value?_scalar (b := 0x66) (by decide) (by decide) (by decide), rfl⟩
  | _, _, .number h, fuel + 1, rest, hr, _ => ⟨rest, value?_number h hr, rfl⟩
  | _, _, .string h, fuel + 1, rest, _, _ => by
    refine ⟨rest, ?_, rfl⟩
    rw [List.cons_append, List.append_assoc]
    exact value?_string h rest
  | _, _, .array h, fuel + 1, rest, _, hf => by
    simp only [List.length_cons, List.length_append] at hf
    refine ⟨rest, ?_, rfl⟩
    rw [List.cons_append, List.append_assoc]
    exact value?_array h fun hne => h.items?_append fuel rest hne (by omega)
  | _, _, .object h, fuel + 1, rest, _, hf => by
    simp only [List.length_cons, List.length_append] at hf
    refine ⟨rest, ?_, rfl⟩
    rw [List.cons_append, List.append_assoc]
    exact value?_object h fun hne => h.members?_append fuel rest hne (by omega)
  -- white space takes no step of its own: the reader skips it before it looks
  | _, _, .before hb h, fuel + 1, rest, hr, hf => by
    simp only [List.length_cons] at hf
    obtain ⟨after, hread, hafter⟩ := h.value?_append (fuel + 1) rest hr (by omega)
    refine ⟨after, ?_, hafter⟩
    rw [← value?_skipBlank, List.cons_append, skipBlank_blank _ hb, value?_skipBlank]
    exact hread
  | _, _, .after (b := b) hb h, fuel + 1, rest, hr, hf => by
    simp only [List.length_append] at hf
    obtain ⟨after, hread, hafter⟩ :=
      h.value?_append (fuel + 1) (b :: rest) (ends_blank hb) (by omega)
    refine ⟨after, ?_, ?_⟩
    · rw [List.append_assoc]
      exact hread
    · rw [hafter, skipBlank_blank rest hb]

/-- The items of an array are read up to the bracket that closes it. -/
theorem ItemsText.items?_append : ∀ {js : List Json} {s : Bytes}, ItemsText js s →
    ∀ (fuel : Nat) (rest : Bytes), js ≠ [] → s.length < fuel →
    items? fuel (s ++ 0x5D :: rest) = some (js, rest)
  | _, _, .none _, _, _, hne, _ => absurd rfl hne
  | _, _, .one h, fuel + 1, rest, _, hf => by
    obtain ⟨after, hread, hafter⟩ :=
      h.value?_append fuel (0x5D :: rest) (ends_cons (by decide)) (by omega)
    rw [skipBlank_cons _ (by decide)] at hafter
    rw [items?, hread]
    simp only [Option.bind_eq_bind, Option.bind_some, hafter]
  | _, _, .more (t := t) h hs, fuel + 1, rest, _, hf => by
    simp only [List.length_append, List.length_cons] at hf
    obtain ⟨after, hread, hafter⟩ :=
      h.value?_append fuel (0x2C :: (t ++ 0x5D :: rest)) (ends_cons (by decide)) (by omega)
    have hrest := hs.items?_append fuel rest (List.cons_ne_nil _ _) (by omega)
    rw [skipBlank_cons _ (by decide)] at hafter
    rw [List.append_assoc, List.cons_append, items?, hread]
    simp only [Option.bind_eq_bind, Option.bind_some, hafter, hrest]

/-- The members of an object are read up to the brace that closes it. -/
theorem MembersText.members?_append : ∀ {ms : List (Bytes × Json)} {s : Bytes}, MembersText ms s →
    ∀ (fuel : Nat) (rest : Bytes), ms ≠ [] → s.length < fuel →
    members? fuel (s ++ 0x7D :: rest) = some (ms, rest)
  | _, _, .none _, _, _, hne, _ => absurd rfl hne
  | _, _, .one hname h, fuel + 1, rest, _, hf => by
    simp only [List.length_append, List.length_cons] at hf
    have hvalue := h.value?_append fuel (0x7D :: rest) (ends_cons (by decide)) (by omega)
    rw [List.append_assoc, List.cons_append]
    exact members?_last hname hvalue (skipBlank_cons _ (by decide))
  | _, _, .more (u := u) hname h hs, fuel + 1, rest, _, hf => by
    simp only [List.length_append, List.length_cons] at hf
    have hvalue :=
      h.value?_append fuel (0x2C :: (u ++ 0x7D :: rest)) (ends_cons (by decide)) (by omega)
    have hrest := hs.members?_append fuel rest (List.cons_ne_nil _ _) (by omega)
    rw [List.append_assoc, List.cons_append, List.append_assoc, List.cons_append]
    exact members?_more hname hvalue (skipBlank_cons _ (by decide)) hrest

end

/-- A text of a value reads as the value. -/
theorem parse?_of_hasText {j : Json} {s : Bytes} (h : HasText j s) : parse? s = some j := by
  obtain ⟨after, hread, hafter⟩ := h.value?_append (2 * s.length + 2) []
    (fun _ hb => nomatch hb) (by omega)
  rw [List.append_nil] at hread
  unfold parse?
  rw [hread]
  simp only [hafter]
  rfl

end SchemaCheck.Json
