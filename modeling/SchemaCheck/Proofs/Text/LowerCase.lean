import Mathlib.Algebra.Group.Nat.Defs
import SchemaCheck.Text.SnakeCase

/-!
# Lower case is reached at once

A character is settled when its lower-case form is the character itself, wherever it stands
(`IsSettled`). All characters of a lower-case text are settled, and a capital among them was there
before. The tables say so: no letter that is mapped to is a capital, or is itself mapped
(`images_apart`).
-/

namespace SchemaCheck.Text

/-! ## Runs -/

/-- The code points of a run. -/
def Run.points (r : Run) : List Nat :=
  List.range' r.first ((r.last - r.first) / r.step + 1) r.step

/-- A run contains every so many code points between its first and its last. -/
theorem Run.contains_iff {r : Run} {n : Nat} :
    r.contains n = true ↔ r.first ≤ n ∧ n ≤ r.last ∧ (n - r.first) % r.step = 0 := by
  simp [contains, and_assoc]

/-- What a run contains is one of its code points. -/
theorem Run.mem_points {r : Run} {n : Nat} (h : r.contains n = true) : n ∈ r.points := by
  obtain ⟨hfirst, hlast, hstep⟩ := contains_iff.1 h
  have hdiv := Nat.div_add_mod (n - r.first) r.step
  have hle : (n - r.first) / r.step ≤ (r.last - r.first) / r.step :=
    Nat.div_le_div_right (Nat.sub_le_sub_right hlast _)
  exact List.mem_range'.2 ⟨(n - r.first) / r.step, Nat.lt_succ_of_le hle, by omega⟩

/-- The letters that a run maps. -/
def CaseRun.letters (r : CaseRun) : Run := ⟨r.first, r.last, r.step⟩

/-- The letters that a run maps to. -/
def CaseRun.images (r : CaseRun) : Run := ⟨r.target, r.target + (r.last - r.first), r.step⟩

/-- A letter is mapped as far behind the target as it is behind the first. -/
theorem CaseRun.images_contains {r : CaseRun} {n : Nat} (h : r.letters.contains n = true) :
    r.images.contains (r.target + (n - r.first)) = true := by
  obtain ⟨hfirst, hlast, hstep⟩ := Run.contains_iff.1 h
  refine Run.contains_iff.2 ⟨Nat.le_add_right .., ?_, ?_⟩
  · have hlast : n ≤ r.last := hlast
    show _ ≤ r.target + (r.last - r.first)
    omega
  · show (r.target + (n - r.first) - r.target) % r.step = 0
    rw [Nat.add_sub_cancel_left]
    exact hstep

/-- Numbers as the bits of one number, in which sets of code points are compared at once. -/
def bitsOf (ns : List Nat) : Nat := ns.foldr (fun n bits => bits ||| 2 ^ n) 0

/-- The bit of each number is set. -/
theorem testBit_bitsOf {ns : List Nat} {n : Nat} (h : n ∈ ns) : (bitsOf ns).testBit n = true := by
  induction ns with
  | nil => exact absurd h List.not_mem_nil
  | cons m ns ih =>
    rw [bitsOf, List.foldr_cons, Nat.testBit_or, Bool.or_eq_true, Nat.testBit_two_pow,
      decide_eq_true_eq]
    rcases List.mem_cons.1 h with rfl | h
    · exact .inr rfl
    · exact .inl (ih h)

/-- Sets whose bits have nothing in common have no number in common. -/
theorem not_mem_of_bitsOf_and {ns ms : List Nat} (h : bitsOf ns &&& bitsOf ms = 0) {n : Nat}
    (hn : n ∈ ns) : n ∉ ms := by
  intro hm
  have hbit : (bitsOf ns &&& bitsOf ms).testBit n = true := by
    rw [Nat.testBit_and, testBit_bitsOf hn, testBit_bitsOf hm]
    rfl
  rw [h, Nat.zero_testBit] at hbit
  cases hbit

/-- No letter that is mapped to is a capital, or is itself mapped. -/
theorem images_apart : bitsOf (lowerCaseRuns.flatMap fun r => r.images.points) &&&
    bitsOf ((upperRuns ++ lowerCaseRuns.map CaseRun.letters).flatMap Run.points) = 0 := by
  decide +kernel

/-- What is mapped to are characters that come after all delimiters. -/
theorem images_valid : ∀ r ∈ lowerCaseRuns, 0x61 ≤ r.target ∧
    (r.images.last < 0xD800 ∨ 0xDFFF < r.target ∧ r.images.last < 0x110000) := by
  decide +kernel

/-! ## Characters -/

/-- Whether the lower-case form of a character is the character itself, wherever it stands. -/
def IsSettled (c : Char) : Prop := lowerChars c = [c] ∧ c.toNat ≠ 0x03A3

/-- A lower-case letter as others are mapped to: it is settled, and neither a capital nor a
delimiter. -/
structure IsSmall (c : Char) : Prop where
  settled : IsSettled c
  upper : isUpper c = false
  delimiter : isDelimiter c = false

instance (c : Char) : Decidable (IsSettled c) := inferInstanceAs (Decidable (_ ∧ _))

instance (c : Char) : Decidable (IsSmall c) :=
  decidable_of_iff (IsSettled c ∧ isUpper c = false ∧ isDelimiter c = false)
    ⟨fun ⟨hsettled, hupper, hdelimiter⟩ => ⟨hsettled, hupper, hdelimiter⟩,
      fun h => ⟨h.settled, h.upper, h.delimiter⟩⟩

/-- Delimiters come before the small letters. -/
theorem toNat_lt_of_isDelimiter {c : Char} (h : isDelimiter c = true) : c.toNat < 0x61 := by
  simp only [isDelimiter, Bool.or_eq_true, beq_iff_eq] at h
  rcases h with (((((rfl | rfl) | rfl) | rfl) | rfl) | rfl) | rfl <;> decide

section

variable {r : CaseRun} (hr : r ∈ lowerCaseRuns) {n : Nat} (hn : r.letters.contains n = true)

include hr hn

/-- A run maps to codes of characters. -/
theorem toNat_image : (Char.ofNat (r.target + (n - r.first))).toNat = r.target + (n - r.first) := by
  obtain ⟨-, hvalid⟩ := images_valid r hr
  obtain ⟨hfirst, hlast, -⟩ := Run.contains_iff.1 (CaseRun.images_contains hn)
  have hvalid : (r.target + (n - r.first)).isValidChar := by
    rcases hvalid with hbelow | ⟨habove, hbelow⟩
    · exact .inl (Nat.lt_of_le_of_lt hlast hbelow)
    · exact .inr ⟨Nat.lt_of_lt_of_le habove hfirst, Nat.lt_of_le_of_lt hlast hbelow⟩
  rw [Char.ofNat, dif_pos hvalid]
  rfl

/-- What a run maps to is in no run of capitals or of letters that are mapped. -/
theorem not_contains_image {s : Run} (hs : s ∈ upperRuns ++ lowerCaseRuns.map CaseRun.letters) :
    ¬ s.contains (Char.ofNat (r.target + (n - r.first))).toNat = true := by
  rw [toNat_image hr hn]
  exact fun hcontains => not_mem_of_bitsOf_and images_apart
    (List.mem_flatMap.2 ⟨r, hr, Run.mem_points (CaseRun.images_contains hn)⟩)
    (List.mem_flatMap.2 ⟨s, hs, Run.mem_points hcontains⟩)

/-- No run maps to anything but small letters. -/
theorem isSmall_image : IsSmall (Char.ofNat (r.target + (n - r.first))) := by
  have htoNat := toNat_image hr hn
  have hafter : 0x61 ≤ r.target + (n - r.first) :=
    Nat.le_trans (images_valid r hr).1 (Nat.le_add_right _ _)
  have hapart : ∀ s ∈ upperRuns ++ lowerCaseRuns.map CaseRun.letters,
      ¬ s.contains (Char.ofNat (r.target + (n - r.first))).toNat = true :=
    fun s => not_contains_image hr hn
  generalize r.target + (n - r.first) = m at htoNat hafter hapart
  have hupper : isUpper (Char.ofNat m) = false := by
    refine Bool.eq_false_iff.2 fun h => ?_
    obtain ⟨s, hs, hcontains⟩ := List.any_eq_true.1 h
    exact hapart s (List.mem_append_left _ hs) hcontains
  have hnone : lowerCaseRuns.find?
      (fun s => Run.contains ⟨s.first, s.last, s.step⟩ (Char.ofNat m).toNat) = none :=
    List.find?_eq_none.2 fun s hs =>
      hapart _ (List.mem_append_right _ (List.mem_map.2 ⟨s, hs, rfl⟩))
  -- the two letters that are not mapped by the runs alone are capitals
  have hne : ∀ k, isUpper (Char.ofNat k) = true → m ≠ k := by
    rintro k hk rfl
    rw [hupper] at hk
    cases hk
  refine ⟨⟨?_, ?_⟩, hupper, Bool.eq_false_iff.2 fun h => ?_⟩
  · rw [lowerChars, if_neg, lowerChar, hnone]
    rw [htoNat]
    exact hne _ (by decide +kernel)
  · rw [htoNat]
    exact hne _ (by decide +kernel)
  · have hlt := toNat_lt_of_isDelimiter h
    rw [htoNat] at hlt
    omega

end

/-! ## Texts -/

/-- What a character becomes in lower case: a settled one stays, and another becomes small letters.
-/
inductive LowersTo (c : Char) : List Char → Prop where
  | stays : IsSettled c → LowersTo c [c]
  | falls {ds : List Char} : isDelimiter c = false → ds ≠ [] → (∀ d ∈ ds, IsSmall d) →
      LowersTo c ds

/-- From the first small letter on there are no delimiters. -/
theorem isDelimiter_eq_false {c : Char} (h : 0x61 ≤ c.toNat) : isDelimiter c = false :=
  Bool.eq_false_iff.2 fun hc => Nat.not_lt.2 h (toNat_lt_of_isDelimiter hc)

/-- Delimiters are settled. -/
theorem isSettled_of_isDelimiter {c : Char} (h : isDelimiter c = true) : IsSettled c := by
  simp only [isDelimiter, Bool.or_eq_true, beq_iff_eq] at h
  rcases h with (((((rfl | rfl) | rfl) | rfl) | rfl) | rfl) | rfl <;> decide +kernel

/-- Both forms of the small sigma, and the letter and the mark that the capital I with a dot
becomes: small letters that rules of their own lead to. -/
theorem isSmall_exceptions : (IsSmall (Char.ofNat 0x03C2) ∧ IsSmall (Char.ofNat 0x03C3)) ∧
    IsSmall 'i' ∧ IsSmall (Char.ofNat 0x0307) := by
  decide +kernel

/-- What the tables say of a character is what it becomes, unless that depends on where it stands.
-/
theorem lowersTo_lowerChars {c : Char} (hc : c.toNat ≠ 0x03A3) : LowersTo c (lowerChars c) := by
  cases hdelimiter : isDelimiter c with
  | true =>
    have hsettled := isSettled_of_isDelimiter hdelimiter
    rw [hsettled.1]
    exact .stays hsettled
  | false =>
    by_cases hdot : c.toNat = 0x0130
    · rw [lowerChars, if_pos hdot]
      obtain ⟨-, hletter, hmark⟩ := isSmall_exceptions
      exact .falls hdelimiter (List.cons_ne_nil _ _)
        (List.forall_mem_cons.2 ⟨hletter, List.forall_mem_singleton.2 hmark⟩)
    · rw [lowerChars, if_neg hdot, lowerChar]
      cases hfind : lowerCaseRuns.find? fun r => Run.contains ⟨r.first, r.last, r.step⟩ c.toNat with
      | none =>
        refine .stays ⟨?_, hc⟩
        rw [lowerChars, if_neg hdot, lowerChar, hfind]
      | some r =>
        have hcontains := List.find?_some hfind
        refine .falls hdelimiter (List.cons_ne_nil _ _) (List.forall_mem_singleton.2 ?_)
        exact isSmall_image (List.mem_of_find?_eq_some hfind) hcontains

/-- Lower case goes character by character. -/
theorem lowersTo_cons (before : List Char) (c : Char) (cs : List Char) :
    ∃ ds, LowersTo c ds ∧ lowerAfter before (c :: cs) = ds ++ lowerAfter (c :: before) cs := by
  by_cases hc : c.toNat = 0x03A3
  · refine ⟨_, ?_, by rw [lowerAfter, if_pos hc]⟩
    refine .falls (isDelimiter_eq_false (by omega)) (List.cons_ne_nil _ _)
      (List.forall_mem_singleton.2 ?_)
    split
    · exact isSmall_exceptions.1.1
    · exact isSmall_exceptions.1.2
  · exact ⟨lowerChars c, lowersTo_lowerChars hc, by rw [lowerAfter, if_neg hc]⟩

/-- What a character becomes is settled. -/
theorem LowersTo.isSettled {c : Char} {ds : List Char} (h : LowersTo c ds) :
    ∀ d ∈ ds, IsSettled d := by
  cases h with
  | stays hc => exact List.forall_mem_singleton.2 hc
  | falls _ _ hds => exact fun d hd => (hds d hd).settled

/-- A text of settled characters is lower-case. -/
theorem lowerAfter_eq_self {cs : List Char} (h : ∀ c ∈ cs, IsSettled c) (before : List Char) :
    lowerAfter before cs = cs := by
  induction cs generalizing before with
  | nil => rfl
  | cons c cs ih =>
    obtain ⟨⟨hc, hsigma⟩, hcs⟩ := List.forall_mem_cons.1 h
    rw [lowerAfter, if_neg hsigma, hc, ih hcs]
    rfl

/-- All characters of a lower-case text are settled. -/
theorem isSettled_of_mem_lowerAfter {before cs : List Char} {d : Char}
    (h : d ∈ lowerAfter before cs) : IsSettled d := by
  induction cs generalizing before with
  | nil => exact absurd h List.not_mem_nil
  | cons c cs ih =>
    obtain ⟨ds, hds, heq⟩ := lowersTo_cons before c cs
    rw [heq] at h
    rcases List.mem_append.1 h with h | h
    · exact hds.isSettled d h
    · exact ih h

/-- A capital in a lower-case text was there before. -/
theorem mem_of_mem_lowerAfter {before cs : List Char} {d : Char} (hd : isUpper d = true)
    (h : d ∈ lowerAfter before cs) : d ∈ cs := by
  induction cs generalizing before with
  | nil => exact absurd h List.not_mem_nil
  | cons c cs ih =>
    obtain ⟨ds, hds, heq⟩ := lowersTo_cons before c cs
    rw [heq] at h
    rcases List.mem_append.1 h with h | h
    · cases hds with
      | stays => exact List.mem_singleton.1 h ▸ List.mem_cons_self
      | falls _ _ hds =>
        rw [(hds d h).upper] at hd
        cases hd
    · exact List.mem_cons_of_mem _ (ih h)

end SchemaCheck.Text
