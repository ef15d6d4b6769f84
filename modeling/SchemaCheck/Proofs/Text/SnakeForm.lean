import SchemaCheck.Proofs.Text.SnakeCase

/-!
# What a lower_snake_case form is made of

`isSnakeForm_lowerSnakeCase`: the lower_snake_case form of a text in ASCII has the characters of the
text without its delimiters, in lower case, and single underscores between some of them. An
underscore stands where delimiters stood, and where a word starts at a capital. Trimming is out of
the way once the text is taken to follow an underscore (`snakeWords_eq_snakeAfter`), and then the
output around two characters is found by walking up to them (`exists_snakeAfter_append`).
-/

namespace SchemaCheck.Text

/-- The characters of a text that are no delimiters. -/
def kept (cs : List Char) : List Char := cs.filter fun c => !isDelimiter c

/-- A text without its underscores. -/
def unmarked (cs : List Char) : List Char := cs.filter fun c => c != '_'

/-- Whether words are parted between the characters `x` and `y`, which are no delimiters, when the
delimiters `between` stand between them and `rest` follows: there are delimiters, or `y` is a
capital, and is after a small letter or before a character that carries on a word. -/
def PartsWords (x : Char) (between : List Char) (y : Char) (rest : List Char) : Prop :=
  between ≠ [] ∨ y.isUpper = true ∧ (x.isLower = true ∨
    ∃ c ∈ rest.head?, c.isUpper = false ∧ c.isDigit = false ∧ isDelimiter c = false)

/-- What the lower_snake_case form `out` of a text has to do with the text. -/
structure IsSnakeForm (cs out : List Char) : Prop where
  /-- No letter is a capital. -/
  upper : ∀ c ∈ out, c.isUpper = false
  /-- The only delimiters are underscores. -/
  delimiter : ∀ c ∈ ['.', '-', ' ', '\t', '\n', '\r'], c ∉ out
  /-- They do not stand at the ends. -/
  ends : out.head? ≠ some '_' ∧ out.getLast? ≠ some '_'
  /-- They stand alone. -/
  single : ∀ before after, out ≠ before ++ '_' :: '_' :: after
  /-- Without them the form is the text without delimiters, in lower case. -/
  content : unmarked out = (kept cs).map Char.toLower
  /-- Between two characters that are no delimiters, and have none but delimiters between them,
  there is an underscore just when words are parted there. -/
  mark : ∀ {before x between y rest}, cs = before ++ x :: (between ++ y :: rest) →
    isDelimiter x = false → (∀ d ∈ between, isDelimiter d = true) → isDelimiter y = false →
    ∃ front mark back, out = front ++ x.toLower :: (mark ++ y.toLower :: back) ∧
      unmarked front = (kept before).map Char.toLower ∧
      unmarked back = (kept rest).map Char.toLower ∧
      (mark = [] ∨ mark = ['_']) ∧ (mark = ['_'] ↔ PartsWords x between y rest)

/-! ## Marks and what stands between them -/

/-- What is no delimiter is no underscore. -/
theorem ne_mark_of_kept {c : Char} (h : isDelimiter c = false) : (c != '_') = true := by
  refine bne_iff_ne.2 fun heq => ?_
  rw [heq] at h
  cases h

/-- Underscores are taken out part by part. -/
theorem unmarked_append (as bs : List Char) : unmarked (as ++ bs) = unmarked as ++ unmarked bs :=
  List.filter_append ..

/-- Delimiters are not kept. -/
theorem kept_cons_delimiter {d : Char} {cs : List Char} (h : isDelimiter d = true) :
    kept (d :: cs) = kept cs :=
  List.filter_cons_of_neg (by simp [h])

/-- Other characters are kept. -/
theorem kept_cons_letter {c : Char} {cs : List Char} (h : isDelimiter c = false) :
    kept (c :: cs) = c :: kept cs :=
  List.filter_cons_of_pos (by simp [h])

section

variable {p : Char} {cs : List Char}

/-- A delimiter leaves nothing but an underscore. -/
theorem unmarked_mark (b : Bool) : unmarked (if b then [] else ['_']) = [] := by
  cases b <;> rfl

/-- Any other character leaves itself, maybe after an underscore. -/
theorem unmarked_letter {c : Char} (hc : isDelimiter c = false) (b : Bool) :
    unmarked (if b then ['_', c] else [c]) = [c] := by
  cases b <;> simp [unmarked, ne_mark_of_kept hc]

/-- Without its underscores the marked text is what was kept. -/
theorem unmarked_snakeAfter : unmarked (snakeAfter p (isDelimiter p) cs) = kept cs := by
  induction cs generalizing p with
  | nil => rfl
  | cons c cs ih =>
    cases hc : isDelimiter c with
    | true => rw [snakeAfter_delimiter hc, unmarked_append, unmarked_mark, ih,
        kept_cons_delimiter hc, List.nil_append]
    | false => rw [snakeAfter_letter hc, unmarked_append, unmarked_letter hc, ih,
        kept_cons_letter hc, List.singleton_append]

/-- What is put out up to a letter, the letter included, does not depend on what comes after the
letter but for the start of a word at it. -/
theorem exists_snakeAfter_append {x : Char} (hx : isDelimiter x = false) (before rest : List Char) :
    ∃ front, snakeAfter p (isDelimiter p) (before ++ x :: rest)
        = front ++ x :: snakeAfter x (isDelimiter x) rest ∧ unmarked front = kept before := by
  induction before generalizing p with
  | nil =>
    rw [List.nil_append, snakeAfter_letter hx]
    cases startsWord p x rest with
    | true => exact ⟨['_'], rfl, rfl⟩
    | false => exact ⟨[], rfl, rfl⟩
  | cons c before ih =>
    obtain ⟨front, hfront, hletters⟩ := ih (p := c)
    cases hc : isDelimiter c with
    | true =>
      refine ⟨(if isDelimiter p then [] else ['_']) ++ front, ?_, ?_⟩
      · rw [List.cons_append, snakeAfter_delimiter hc, hfront, List.append_assoc]
      · rw [unmarked_append, unmarked_mark, hletters, kept_cons_delimiter hc, List.nil_append]
    | false =>
      refine ⟨(if startsWord p c (before ++ x :: rest) then ['_', c] else [c]) ++ front, ?_, ?_⟩
      · rw [List.cons_append, snakeAfter_letter hc, hfront, List.append_assoc]
      · rw [unmarked_append, unmarked_letter hc, hletters, kept_cons_letter hc,
          List.singleton_append]

/-- After a delimiter more delimiters are passed over. -/
theorem snakeAfter_delimiters {d y : Char} {between rest : List Char} (hd : isDelimiter d = true)
    (hbetween : ∀ e ∈ between, isDelimiter e = true) (hy : isDelimiter y = false) :
    snakeAfter d (isDelimiter d) (between ++ y :: rest)
      = y :: snakeAfter y (isDelimiter y) rest := by
  induction between generalizing d with
  | nil =>
    rw [List.nil_append, snakeAfter_letter hy, startsWord_of_delimiter hd]
    rfl
  | cons e between ih =>
    obtain ⟨he, hbetween⟩ := List.forall_mem_cons.1 hbetween
    rw [List.cons_append, snakeAfter_delimiter he, hd, if_pos rfl, List.nil_append,
      ih he hbetween]

/-- What is put out between two letters and the second of them. -/
theorem snakeAfter_between {x y : Char} {between rest : List Char} (hx : isDelimiter x = false)
    (hbetween : ∀ e ∈ between, isDelimiter e = true) (hy : isDelimiter y = false) :
    snakeAfter x (isDelimiter x) (between ++ y :: rest)
      = (if between ≠ [] ∨ startsWord x y rest then ['_'] else [])
        ++ y :: snakeAfter y (isDelimiter y) rest := by
  cases between with
  | nil =>
    rw [List.nil_append, snakeAfter_letter hy]
    cases startsWord x y rest <;> rfl
  | cons d between =>
    obtain ⟨hd, hbetween⟩ := List.forall_mem_cons.1 hbetween
    have hmark : d :: between ≠ [] ∨ startsWord x y rest = true := .inl (List.cons_ne_nil _ _)
    rw [if_pos hmark, List.cons_append, snakeAfter_delimiter hd, hx,
      snakeAfter_delimiters hd hbetween hy]
    rfl

end

/-! ## Trimming -/

/-- The words of a text are those of the trimmed text when an underscore is before it. -/
theorem snakeWords_eq_snakeAfter (cs : List Char) :
    snakeWords cs = snakeAfter '_' (isDelimiter '_') (trimDelimiters cs) := by
  unfold snakeWords
  cases hcs : trimDelimiters cs with
  | nil => rfl
  | cons c rest =>
    have hc : isDelimiter c = false := (trimDelimiters_ends cs).1 c (by rw [hcs]; rfl)
    rw [snakeAfter_letter hc, startsWord_of_delimiter rfl, hc]
    rfl

/-- To trim delimiters at the start leaves what is kept. -/
theorem kept_dropWhile (cs : List Char) : kept (cs.dropWhile isDelimiter) = kept cs := by
  induction cs with
  | nil => rfl
  | cons c cs ih =>
    cases hc : isDelimiter c with
    | true => rw [List.dropWhile_cons_of_pos hc, ih, kept_cons_delimiter hc]
    | false => rw [List.dropWhile_cons_of_neg (by simp [hc])]

/-- Backwards the same is kept, backwards. -/
theorem kept_reverse (cs : List Char) : kept cs.reverse = (kept cs).reverse :=
  List.filter_reverse ..

/-- A text without the delimiters at its end. -/
def trimEnd (cs : List Char) : List Char := (cs.reverse.dropWhile isDelimiter).reverse

/-- To trim delimiters at the end leaves what is kept. -/
theorem kept_trimEnd (cs : List Char) : kept (trimEnd cs) = kept cs := by
  rw [trimEnd, kept_reverse, kept_dropWhile, kept_reverse, List.reverse_reverse]

/-- To trim delimiters at both ends leaves what is kept. -/
theorem kept_trimDelimiters (cs : List Char) : kept (trimDelimiters cs) = kept cs := by
  show kept (trimEnd (cs.dropWhile isDelimiter)) = kept cs
  rw [kept_trimEnd, kept_dropWhile]

/-- Delimiters are dropped up to a letter. -/
theorem dropWhile_append_letter {c : Char} (hc : isDelimiter c = false) (before rest : List Char) :
    (before ++ c :: rest).dropWhile isDelimiter = before.dropWhile isDelimiter ++ c :: rest := by
  rw [List.dropWhile_append]
  split
  · next h => rw [List.isEmpty_iff.1 h, List.dropWhile_cons_of_neg (by simp [hc]), List.nil_append]
  · rfl

/-- Trimming at the end stops at the last character that is no delimiter. -/
theorem trimEnd_append_letter {c : Char} (hc : isDelimiter c = false) (before rest : List Char) :
    trimEnd (before ++ c :: rest) = before ++ c :: trimEnd rest := by
  simp only [trimEnd, List.reverse_append, List.reverse_cons, List.append_assoc,
    dropWhile_append_letter hc, List.reverse_reverse, List.cons_append, List.nil_append]

/-- Trimming at both ends leaves what is between two characters that are no delimiters. -/
theorem trimDelimiters_append {x y : Char} {before between rest : List Char}
    (hx : isDelimiter x = false) (hy : isDelimiter y = false) :
    trimDelimiters (before ++ x :: (between ++ y :: rest))
      = before.dropWhile isDelimiter ++ x :: (between ++ y :: trimEnd rest) := by
  show trimEnd ((before ++ x :: (between ++ y :: rest)).dropWhile isDelimiter) = _
  rw [dropWhile_append_letter hx, trimEnd_append_letter hx, trimEnd_append_letter hy]

/-- A word that goes on after a character still does when the end of the text is trimmed. -/
theorem continuesWord_trimEnd (cs : List Char) : continuesWord (trimEnd cs) = continuesWord cs := by
  cases cs with
  | nil => rfl
  | cons c cs =>
    cases hc : isDelimiter c with
    | true =>
      -- what is left of a text that begins with a delimiter is nothing, or begins with it too
      have hprefix : trimEnd (c :: cs) <+: c :: cs := List.reverse_suffix.1 (by
        rw [trimEnd, List.reverse_reverse]
        exact List.dropWhile_suffix _)
      obtain ⟨rest, hrest⟩ := hprefix
      cases htrim : trimEnd (c :: cs) with
      | nil => simp [continuesWord, hc]
      | cons d ds =>
        rw [htrim] at hrest
        obtain ⟨rfl, -⟩ := List.cons.inj hrest
        simp [continuesWord, hc]
    | false =>
      have htrim : trimEnd (c :: cs) = c :: trimEnd cs := trimEnd_append_letter hc [] cs
      rw [htrim]
      rfl

/-- The words of a text around two letters with nothing but delimiters between them. -/
theorem exists_snakeWords_append {x y : Char} {between : List Char} (before rest : List Char)
    (hx : isDelimiter x = false) (hbetween : ∀ d ∈ between, isDelimiter d = true)
    (hy : isDelimiter y = false) :
    ∃ front back, snakeWords (before ++ x :: (between ++ y :: rest))
        = front ++ x :: ((if between ≠ [] ∨ startsWord x y rest then ['_'] else []) ++ y :: back) ∧
      unmarked front = kept before ∧ unmarked back = kept rest := by
  obtain ⟨front, hfront, hletters⟩ := exists_snakeAfter_append (p := '_') hx
    (before.dropWhile isDelimiter) (between ++ y :: trimEnd rest)
  have hstart : startsWord x y (trimEnd rest) = startsWord x y rest := by
    rw [startsWord, continuesWord_trimEnd]
    rfl
  refine ⟨front, snakeAfter y (isDelimiter y) (trimEnd rest), ?_, ?_, ?_⟩
  · rw [snakeWords_eq_snakeAfter, trimDelimiters_append hx hy, hfront,
      snakeAfter_between hx hbetween hy, hstart]
  · rw [hletters, kept_dropWhile]
  · rw [unmarked_snakeAfter, kept_trimEnd]

/-! ## ASCII -/

/-- Whether a text is in ASCII. -/
def IsAscii (cs : List Char) : Prop := ∀ c ∈ cs, c.toNat < 128

instance (cs : List Char) : Decidable (IsAscii cs) :=
  List.decidableBAll (fun c : Char => c.toNat < 128) cs

/-- What holds of the first 128 characters holds in ASCII. -/
theorem forall_ascii {P : Char → Prop} (h : ∀ n < 128, P (Char.ofNat n)) {c : Char}
    (hc : c.toNat < 128) : P c := by
  have hn := h c.toNat hc
  rwa [Char.ofNat_toNat] at hn

/-- A run of greater numbers has no character of ASCII in it. -/
theorem Run.contains_eq_false {r : Run} {n : Nat} (hr : 128 ≤ r.first) (hn : n < 128) :
    r.contains n = false := by
  have hlt : ¬ r.first ≤ n := by omega
  simp [Run.contains, hlt]

/-- A run without gaps is told by its bounds. -/
theorem Run.contains_eq_bounds (first last : UInt32) (c : Char) :
    Run.contains ⟨first.toNat, last.toNat, 1⟩ c.toNat =
      (decide (c.val ≥ first) && decide (c.val ≤ last)) := by
  simp [Run.contains, UInt32.le_iff_toNat_le, Nat.mod_one]

/-- In ASCII a table of runs says what its first run does, if the others are of greater numbers. -/
theorem inRuns_cons (r : Run) (rs : List Run) (hrs : ∀ r ∈ rs, 128 ≤ r.first) {c : Char}
    (h : c.toNat < 128) : inRuns (r :: rs) c = r.contains c.toNat := by
  have hnone : rs.any (·.contains c.toNat) = false :=
    List.any_eq_false.2 fun r hr => by simp [Run.contains_eq_false (hrs r hr) h]
  rw [inRuns, List.any_cons, hnone, Bool.or_false]

/-- All runs but the first of each table are of greater numbers. -/
theorem above_ascii : ∀ r ∈ upperRuns.tail ++ lowerRuns.tail ++ numericRuns.tail ++
    lowerCaseRuns.tail.map CaseRun.letters, 128 ≤ r.first := by
  decide +kernel

section

variable {c : Char} (h : c.toNat < 128)

include h

/-- In ASCII the capitals are the letters from A to Z. -/
theorem isUpper_ascii : isUpper c = c.isUpper :=
  (inRuns_cons ⟨0x41, 0x5A, 1⟩ upperRuns.tail (fun r hr => above_ascii r (by simp [hr])) h).trans
    ((Run.contains_eq_bounds 0x41 0x5A c).trans (Bool.decide_and ..).symm)

/-- In ASCII the small letters are those from a to z. -/
theorem isLower_ascii : isLower c = c.isLower :=
  (inRuns_cons ⟨0x61, 0x7A, 1⟩ lowerRuns.tail (fun r hr => above_ascii r (by simp [hr])) h).trans
    (Run.contains_eq_bounds 0x61 0x7A c)

/-- In ASCII the numerals are the digits. -/
theorem isNumeric_ascii : isNumeric c = c.isDigit :=
  (inRuns_cons ⟨0x30, 0x39, 1⟩ numericRuns.tail (fun r hr => above_ascii r (by simp [hr])) h).trans
    (Run.contains_eq_bounds 0x30 0x39 c)

/-- In ASCII only the first run of the table has letters to map. -/
theorem lowerChar_ascii : lowerChar c =
    if Run.contains ⟨0x41, 0x5A, 1⟩ c.toNat then Char.ofNat (0x61 + (c.toNat - 0x41)) else c := by
  have hrest : lowerCaseRuns.tail.find? (fun r => Run.contains ⟨r.first, r.last, r.step⟩ c.toNat) =
      none := by
    refine List.find?_eq_none.2 fun r hr => ?_
    have hmem : r.letters ∈ lowerCaseRuns.tail.map CaseRun.letters := List.mem_map_of_mem hr
    exact Bool.eq_false_iff.1
      (Run.contains_eq_false (above_ascii r.letters (List.mem_append_right _ hmem)) h)
  cases hc : Run.contains ⟨0x41, 0x5A, 1⟩ c.toNat with
  | true =>
    have hfind : lowerCaseRuns.find? (fun r => Run.contains ⟨r.first, r.last, r.step⟩ c.toNat) =
      some ⟨0x41, 0x5A, 1, 0x61⟩ := List.find?_cons_of_pos hc
    rw [lowerChar, hfind]
    rfl
  | false =>
    have hfind : lowerCaseRuns.find? (fun r => Run.contains ⟨r.first, r.last, r.step⟩ c.toNat) =
      lowerCaseRuns.tail.find? _ := List.find?_cons_of_neg (Bool.eq_false_iff.1 hc)
    rw [lowerChar, hfind, hrest]
    rfl

/-- In ASCII capitals move to the place of small letters, and nothing moves from or to the place of
the underscore. -/
theorem toLower_ascii :
    (if Run.contains ⟨0x41, 0x5A, 1⟩ c.toNat then Char.ofNat (0x61 + (c.toNat - 0x41)) else c) =
      c.toLower ∧ c.toLower.isUpper = false ∧ (c.toLower != '_') = (c != '_') :=
  forall_ascii (P := fun c => (if Run.contains ⟨0x41, 0x5A, 1⟩ c.toNat then
    Char.ofNat (0x61 + (c.toNat - 0x41)) else c) = c.toLower ∧ c.toLower.isUpper = false ∧
    (c.toLower != '_') = (c != '_')) (by decide +kernel) h

/-- In ASCII a character becomes one character. -/
theorem lowerChars_ascii : lowerChars c = [c.toLower] := by
  rw [lowerChars, if_neg (by omega), lowerChar_ascii h, (toLower_ascii h).1]

end

/-- In ASCII letters become small one by one. -/
theorem lowerAfter_ascii {cs : List Char} (h : IsAscii cs) (before : List Char) :
    lowerAfter before cs = cs.map Char.toLower := by
  induction cs generalizing before with
  | nil => rfl
  | cons c cs ih =>
    obtain ⟨hc, hcs⟩ := List.forall_mem_cons.1 h
    rw [lowerAfter, if_neg (by omega), lowerChars_ascii hc, ih hcs]
    rfl

/-- In ASCII small letters are made without touching underscores. -/
theorem unmarked_map_toLower {cs : List Char} (h : IsAscii cs) :
    unmarked (cs.map Char.toLower) = (unmarked cs).map Char.toLower := by
  rw [unmarked, List.filter_map, unmarked]
  refine congrArg _ (List.filter_congr fun c hc => ?_)
  exact (toLower_ascii (h c hc)).2.2

/-- A text in ASCII stays so when its words are marked. -/
theorem isAscii_snakeWords {cs : List Char} (h : IsAscii cs) : IsAscii (snakeWords cs) := by
  intro c hc
  rcases mem_snakeWords hc with hc | rfl
  · exact h c hc
  · decide

/-- In ASCII a word starts between two letters just when words are parted there. -/
theorem startsWord_iff_partsWords {x y : Char} {between rest : List Char}
    (hx : isDelimiter x = false) (hascii : x.toNat < 128 ∧ y.toNat < 128 ∧ IsAscii rest) :
    (between ≠ [] ∨ startsWord x y rest = true) ↔ PartsWords x between y rest := by
  obtain ⟨hxa, hya, hrest⟩ := hascii
  have hcontinues : continuesWord rest = true ↔
      ∃ c ∈ rest.head?, c.isUpper = false ∧ c.isDigit = false ∧ isDelimiter c = false := by
    cases rest with
    | nil => simp [continuesWord]
    | cons c cs =>
      have hc := hrest c List.mem_cons_self
      simp [continuesWord, isUpper_ascii hc, isNumeric_ascii hc, and_assoc]
  unfold PartsWords startsWord
  rw [isUpper_ascii hya, isLower_ascii hxa, hx, Bool.not_false, Bool.and_true, Bool.and_eq_true,
    Bool.or_eq_true, hcontinues, or_comm (b := x.isLower = true)]

/-! ## Forms -/

/-- The only delimiters of a tidy text are underscores. -/
theorem TidyAfter.delimiter {b : Bool} {cs : List Char} (h : TidyAfter b cs) :
    ∀ c ∈ cs, isDelimiter c = true → c = '_' := by
  induction cs generalizing b with
  | nil => exact fun c hc => absurd hc List.not_mem_nil
  | cons d cs ih => exact List.forall_mem_cons.2 ⟨fun hd => (h.1 hd).1, ih h.2⟩

/-- Underscores stand alone in a tidy text. -/
theorem TidyAfter.single {b : Bool} {cs : List Char} (h : TidyAfter b cs)
    (before after : List Char) : cs ≠ before ++ '_' :: '_' :: after := by
  rintro rfl
  induction before generalizing b with
  | nil =>
    obtain ⟨-, hsecond, -⟩ := h
    cases (hsecond rfl).2
  | cons c before ih => exact ih h.2

/-- No text in tidy form has two underscores together, one at an end, or another delimiter. -/
theorem IsTidy.marks {cs : List Char} (h : IsTidy cs) :
    (∀ c ∈ ['.', '-', ' ', '\t', '\n', '\r'], c ∉ cs) ∧
      (cs.head? ≠ some '_' ∧ cs.getLast? ≠ some '_') ∧
      ∀ before after, cs ≠ before ++ '_' :: '_' :: after := by
  rcases h with rfl | h
  · exact ⟨by simp, by simp, by simp⟩
  · refine ⟨fun c hc hmem => ?_, ⟨fun hhead => ?_, fun hlast => ?_⟩, h.single⟩
    · have hne : ∀ c ∈ ['.', '-', ' ', '\t', '\n', '\r'], isDelimiter c = true ∧ c ≠ '_' := by
        simp [isDelimiter]
      exact (hne c hc).2 (h.delimiter c hmem (hne c hc).1)
    · obtain ⟨cs', rfl⟩ := List.head?_eq_some_iff.1 hhead
      cases h.head
    · cases h.getLast '_' hlast

/-- A text in ASCII and its lower_snake_case form: the characters that are no delimiters, in lower
case, and single underscores where words are parted. -/
theorem isSnakeForm_lowerSnakeCase (s : String) (h : IsAscii s.toList) :
    IsSnakeForm s.toList (lowerSnakeCase s).toList := by
  have hwords := isAscii_snakeWords h
  have hmarks := (isTidy_lowerCase (isTidy_snakeWords s.toList)).marks
  have hlower : lowerCase (snakeWords s.toList) = (snakeWords s.toList).map Char.toLower :=
    lowerAfter_ascii hwords []
  rw [toList_lowerSnakeCase]
  rw [hlower] at hmarks ⊢
  obtain ⟨hdelimiter, hends, hsingle⟩ := hmarks
  refine ⟨?_, hdelimiter, hends, hsingle, ?_, ?_⟩
  · exact List.forall_mem_map.2 fun c hc => (toLower_ascii (hwords c hc)).2.1
  · rw [unmarked_map_toLower hwords, snakeWords_eq_snakeAfter, unmarked_snakeAfter,
      kept_trimDelimiters]
  · intro before x between y rest hs hx hbetween hy
    obtain ⟨front, back, hsplit, hfront, hback⟩ :=
      exists_snakeWords_append before rest hx hbetween hy
    rw [← hs] at hsplit
    have hasciiFront : IsAscii front := fun c hc => hwords c (by simp [hsplit, hc])
    have hasciiBack : IsAscii back := fun c hc => hwords c (by simp [hsplit, hc])
    -- in ASCII the test of the loop is the one of the statement
    have hparts : (between ≠ [] ∨ startsWord x y rest = true) ↔ PartsWords x between y rest :=
      startsWord_iff_partsWords hx
        ⟨h x (by simp [hs]), h y (by simp [hs]), fun c hc => h c (by simp [hs, hc])⟩
    refine ⟨front.map Char.toLower, if between ≠ [] ∨ startsWord x y rest then ['_'] else [],
      back.map Char.toLower, ?_, ?_, ?_, ?_, ?_⟩
    · rw [hsplit]
      split <;> simp
    · rw [unmarked_map_toLower hasciiFront, hfront]
    · rw [unmarked_map_toLower hasciiBack, hback]
    · split
      · exact .inr rfl
      · exact .inl rfl
    · rw [← hparts]
      split
      · next hyes => exact iff_of_true rfl hyes
      · next hno => exact iff_of_false (by simp) hno

/-- A name with an acronym, a digit and delimiters next to each other. -/
theorem isSnakeForm_acronym : IsAscii "__HTTPServer2.-fooBar".toList ∧
    lowerSnakeCase "__HTTPServer2.-fooBar" = "http_server2_foo_bar" ∧
    IsSnakeForm "__HTTPServer2.-fooBar".toList (lowerSnakeCase "__HTTPServer2.-fooBar").toList :=
  ⟨by decide, by decide +kernel, isSnakeForm_lowerSnakeCase _ (by decide)⟩

end SchemaCheck.Text
