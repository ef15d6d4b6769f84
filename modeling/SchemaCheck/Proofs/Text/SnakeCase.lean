import SchemaCheck.Proofs.Text.LowerCase

/-!
# Lower snake case, again and again

The lower_snake_case form of a lower_snake_case form is the form itself just when no word of it
starts at a capital (`lowerSnakeCase_lowerSnakeCase_eq_iff`); such a capital has no lower-case
letter (`mem_of_mem_lowerSnakeCase`). The form of the form is always final
(`lowerSnakeCase_lowerSnakeCase_lowerSnakeCase`). Marks between words are put once and for all
(`snakeWords_snakeWords`), but they are put before capitals are made small, and small letters part
words at other places.
-/

namespace SchemaCheck.Text

/-! ## One character -/

/-- Whether a word starts at the character `c`, which stands between `p` and `rest`: a capital that
is not after a delimiter, and before a letter that carries on a word or after a small letter. -/
def startsWord (p c : Char) (rest : List Char) : Bool :=
  isUpper c && !isDelimiter p && (continuesWord rest || isLower p)

/-- A text in which all words are marked: none starts but at the start and after a delimiter. -/
def MarksWords (cs : List Char) : Prop :=
  ∀ before p c rest, cs = before ++ p :: c :: rest → startsWord p c rest = false

/-- In an empty text no word starts. -/
theorem marksWords_nil : MarksWords [] := by
  intro before p c rest h
  simp at h

/-- One character by itself starts no word that would have to be marked. -/
theorem marksWords_singleton (c : Char) : MarksWords [c] := by
  intro before p d rest h
  have hlength := congrArg List.length h
  simp only [List.length_append, List.length_cons, List.length_nil] at hlength
  omega

/-- All words are marked when none starts at the second character, nor after it. -/
theorem marksWords_cons_cons {p c : Char} {cs : List Char} :
    MarksWords (p :: c :: cs) ↔ startsWord p c cs = false ∧ MarksWords (c :: cs) := by
  constructor
  · intro h
    exact ⟨h [] p c cs rfl, fun before q d rest heq => h (p :: before) q d rest (by rw [heq]; rfl)⟩
  · rintro ⟨hstart, hrest⟩ before q d rest heq
    cases before with
    | nil =>
      cases heq
      exact hstart
    | cons b before => exact hrest before q d rest (List.cons.inj heq).2

/-- An underscore is no capital. -/
theorem isUpper_mark : isUpper '_' = false := by decide +kernel

section

variable {p c : Char} {cs : List Char}

/-- The first delimiter of several becomes an underscore, and the others nothing. -/
theorem snakeAfter_delimiter (hc : isDelimiter c = true) :
    snakeAfter p (isDelimiter p) (c :: cs)
      = (if isDelimiter p then [] else ['_']) ++ snakeAfter c (isDelimiter c) cs := by
  rw [snakeAfter, snakeStep, hc]
  cases isDelimiter p <;> simp [isUpper_mark]

/-- Another character stays, behind an underscore if a word starts at it. -/
theorem snakeAfter_letter (hc : isDelimiter c = false) :
    snakeAfter p (isDelimiter p) (c :: cs)
      = (if startsWord p c cs then ['_', c] else [c]) ++ snakeAfter c (isDelimiter c) cs := by
  have hmark : (c == '_') = false := beq_eq_false_iff_ne.2 fun h => by
    rw [h] at hc
    cases hc
  have hstep : snakeStep p (isDelimiter p) c cs = if startsWord p c cs then ['_', c] else [c] := by
    simp only [snakeStep, hc, Bool.false_eq_true, if_false]
    rw [if_neg (c := (c == '_' && isDelimiter p) = true) (by simp [hmark])]
    rfl
  rw [snakeAfter, hstep]
  split <;> simp [hmark, hc]

end

/-! ## Tidy texts -/

/-- A text whose delimiters are single underscores, after a text that ends in an underscore or not,
and with none at its own end. -/
def TidyAfter (afterMark : Bool) : List Char → Prop
  | [] => afterMark = false
  | c :: cs => (isDelimiter c = true → c = '_' ∧ afterMark = false) ∧ TidyAfter (isDelimiter c) cs

/-- A text whose delimiters are single underscores, with none at its ends. -/
def IsTidy (cs : List Char) : Prop := cs = [] ∨ TidyAfter true cs

/-- After an underscore a tidy text goes on with something else. -/
theorem TidyAfter.head {c : Char} {cs : List Char} (h : TidyAfter true (c :: cs)) :
    isDelimiter c = false :=
  Bool.eq_false_iff.2 fun hc => Bool.noConfusion (h.1 hc).2

/-- Before a character that is no delimiter anything may stand. -/
theorem tidyAfter_cons {b : Bool} {c : Char} {cs : List Char} (hc : isDelimiter c = false) :
    TidyAfter b (c :: cs) ↔ TidyAfter false cs := by
  simp [TidyAfter, hc]

/-- A tidy text does not end in a delimiter. -/
theorem TidyAfter.getLast {b : Bool} {cs : List Char} (h : TidyAfter b cs) :
    ∀ d ∈ cs.getLast?, isDelimiter d = false := by
  induction cs generalizing b with
  | nil => exact fun d hd => absurd hd (by simp)
  | cons c cs ih =>
    cases cs with
    | nil =>
      rintro d ⟨⟩
      exact h.2
    | cons c' cs =>
      rw [List.getLast?_cons_cons]
      exact ih h.2

/-- A text without delimiters at its ends is not trimmed. -/
theorem trimDelimiters_eq_self {cs : List Char} (hhead : ∀ d ∈ cs.head?, isDelimiter d = false)
    (hlast : ∀ d ∈ cs.getLast?, isDelimiter d = false) : trimDelimiters cs = cs := by
  have hdrop : ∀ {ds : List Char}, (∀ d ∈ ds.head?, isDelimiter d = false) →
      ds.dropWhile isDelimiter = ds := by
    intro ds hds
    cases ds with
    | nil => rfl
    | cons d ds => rw [List.dropWhile_cons_of_neg]; rw [hds d rfl]; exact Bool.false_ne_true
  rw [trimDelimiters, hdrop hhead, hdrop, List.reverse_reverse]
  rwa [List.head?_reverse]

/-- A trimmed text has no delimiters at its ends. -/
theorem trimDelimiters_ends (cs : List Char) :
    (∀ d ∈ (trimDelimiters cs).head?, isDelimiter d = false) ∧
      ∀ d ∈ (trimDelimiters cs).getLast?, isDelimiter d = false := by
  have hdrop : ∀ ds : List Char, ∀ d ∈ (ds.dropWhile isDelimiter).head?, isDelimiter d = false := by
    intro ds d hd
    have h := List.head?_dropWhile_not isDelimiter ds
    rw [Option.mem_def.1 hd] at h
    simpa using h
  constructor
  · intro d hd
    refine hdrop cs d ?_
    -- what is left of the text begins as it did before its end was trimmed
    have hprefix : trimDelimiters cs <+: cs.dropWhile isDelimiter := List.reverse_suffix.1 (by
      rw [trimDelimiters, List.reverse_reverse]
      exact List.dropWhile_suffix _)
    obtain ⟨rest, hrest⟩ := hprefix
    rw [← hrest, List.head?_append, Option.mem_def.1 hd]
    rfl
  · rw [trimDelimiters, List.getLast?_reverse]
    exact hdrop _

/-- Nothing is trimmed from a tidy text. -/
theorem IsTidy.trimDelimiters {cs : List Char} (h : IsTidy cs) : trimDelimiters cs = cs := by
  rcases h with rfl | h
  · rfl
  · refine trimDelimiters_eq_self ?_ h.getLast
    cases cs with
    | nil => exact fun d hd => absurd hd (by simp)
    | cons c cs =>
      rintro d ⟨⟩
      exact h.head

/-- A tidy text is not trimmed before its words are marked. -/
theorem IsTidy.snakeWords {c : Char} {cs : List Char} (h : IsTidy (c :: cs)) :
    snakeWords (c :: cs) = c :: snakeAfter c (isDelimiter c) cs := by
  have hc : isDelimiter c = false := by
    rcases h with h | h
    · cases h
    · exact h.head
  rw [Text.snakeWords, h.trimDelimiters, hc]

/-! ## Marks -/

/-- What a character leaves in the output: an underscore, if it is a delimiter. -/
def asMark (p : Char) : Char := if isDelimiter p then '_' else p

/-- A delimiter is put out as an underscore. -/
theorem asMark_of_delimiter {p : Char} (h : isDelimiter p = true) : asMark p = '_' := if_pos h

/-- Another character is put out as it is. -/
theorem asMark_of_letter {p : Char} (h : isDelimiter p = false) : asMark p = p :=
  if_neg (by rw [h]; exact Bool.false_ne_true)

/-- No word starts after a delimiter that would have to be marked. -/
theorem startsWord_of_delimiter {p c : Char} {cs : List Char} (h : isDelimiter p = true) :
    startsWord p c cs = false := by
  simp [startsWord, h]

/-- A word that has to be marked starts after something else than a delimiter. -/
theorem isDelimiter_of_startsWord {p c : Char} {cs : List Char} (h : startsWord p c cs = true) :
    isDelimiter p = false := by
  simp only [startsWord, Bool.and_eq_true, Bool.not_eq_true'] at h
  exact h.1.2

/-- To mark words adds nothing but underscores. -/
theorem mem_snakeAfter {p d : Char} {cs : List Char} (h : d ∈ snakeAfter p (isDelimiter p) cs) :
    d ∈ cs ∨ d = '_' := by
  induction cs generalizing p with
  | nil => exact absurd h List.not_mem_nil
  | cons c cs ih =>
    have hrest : d ∈ snakeAfter c (isDelimiter c) cs → d ∈ c :: cs ∨ d = '_' := fun h =>
      (ih h).imp_left (List.mem_cons_of_mem c)
    cases hc : isDelimiter c with
    | true =>
      rw [snakeAfter_delimiter hc] at h
      rcases List.mem_append.1 h with h | h
      · split at h
        · exact absurd h List.not_mem_nil
        · exact .inr (List.mem_singleton.1 h)
      · exact hrest h
    | false =>
      rw [snakeAfter_letter hc] at h
      rcases List.mem_append.1 h with h | h
      · split at h
        · rcases List.mem_cons.1 h with h | h
          · exact .inr h
          · exact .inl (List.mem_singleton.1 h ▸ List.mem_cons_self)
        · exact .inl (List.mem_singleton.1 h ▸ List.mem_cons_self)
      · exact hrest h

/-- To trim a text and to mark its words adds nothing but underscores. -/
theorem mem_snakeWords {d : Char} {cs : List Char} (h : d ∈ snakeWords cs) : d ∈ cs ∨ d = '_' := by
  have htrim : ∀ d ∈ trimDelimiters cs, d ∈ cs := by
    intro d hd
    rw [trimDelimiters, List.mem_reverse] at hd
    exact (List.dropWhile_sublist _).subset
      (List.mem_reverse.1 ((List.dropWhile_sublist _).subset hd))
  unfold snakeWords at h
  cases hcs : trimDelimiters cs with
  | nil =>
    rw [hcs] at h
    exact absurd h List.not_mem_nil
  | cons c rest =>
    have hc : isDelimiter c = false := (trimDelimiters_ends cs).1 c (by rw [hcs]; rfl)
    rw [hcs] at h htrim
    rcases List.mem_cons.1 h with rfl | h
    · exact .inl (htrim _ List.mem_cons_self)
    · rw [← hc] at h
      exact (mem_snakeAfter h).imp_left fun h => htrim d (List.mem_cons_of_mem c h)

/-- After a letter a word goes on in the output just when it goes on in the input. -/
theorem continuesWord_snakeAfter {p : Char} (hp : isDelimiter p = false) (cs : List Char) :
    continuesWord (snakeAfter p (isDelimiter p) cs) = continuesWord cs := by
  cases cs with
  | nil => rfl
  | cons c cs =>
    cases hc : isDelimiter c with
    | true =>
      rw [snakeAfter_delimiter hc, hp]
      simp [continuesWord, hc, show isDelimiter '_' = true from rfl]
    | false =>
      rw [snakeAfter_letter hc]
      cases hstart : startsWord p c cs with
      | true =>
        have hupper : isUpper c = true := by
          simp only [startsWord, Bool.and_eq_true] at hstart
          exact hstart.1.1
        simp [continuesWord, hupper, show isDelimiter '_' = true from rfl]
      | false => rfl

/-- Words that are marked are not marked again. -/
theorem snakeAfter_snakeAfter (p : Char) (cs : List Char) :
    snakeAfter (asMark p) (isDelimiter (asMark p)) (snakeAfter p (isDelimiter p) cs)
      = snakeAfter p (isDelimiter p) cs := by
  induction cs generalizing p with
  | nil => rfl
  | cons c cs ih =>
    have ih := ih c
    generalize hrest : snakeAfter c (isDelimiter c) cs = rest at ih
    cases hc : isDelimiter c with
    | true =>
      rw [asMark_of_delimiter hc] at ih
      rw [snakeAfter_delimiter hc, hrest]
      cases hp : isDelimiter p with
      | true =>
        rw [asMark_of_delimiter hp]
        exact ih
      | false =>
        rw [asMark_of_letter hp, if_neg Bool.false_ne_true, List.singleton_append,
          snakeAfter_delimiter rfl, hp, ih]
        rfl
    | false =>
      rw [asMark_of_letter hc] at ih
      rw [snakeAfter_letter hc, hrest]
      cases hstart : startsWord p c cs with
      | true =>
        have hp := isDelimiter_of_startsWord hstart
        rw [asMark_of_letter hp, if_pos rfl, List.cons_append, snakeAfter_delimiter rfl, hp,
          List.singleton_append, snakeAfter_letter hc, startsWord_of_delimiter rfl, ih]
        rfl
      | false =>
        -- what follows has the same first character, so the word starts here no more than before
        have hagain : startsWord (asMark p) c rest = false := by
          cases hp : isDelimiter p with
          | true => rw [asMark_of_delimiter hp, startsWord_of_delimiter rfl]
          | false =>
            rw [asMark_of_letter hp, startsWord, ← hrest, continuesWord_snakeAfter hc]
            exact hstart
        rw [if_neg Bool.false_ne_true, List.singleton_append, snakeAfter_letter hc, hagain, ih]
        rfl

/-- When the end of a text is no delimiter, its marks are single underscores. The induction follows
the characters, each with the one before it. -/
theorem tidyAfter_snakeAfter {p : Char} {cs : List Char}
    (h : ∀ d ∈ (p :: cs).getLast?, isDelimiter d = false) :
    TidyAfter (isDelimiter p) (snakeAfter p (isDelimiter p) cs) := by
  induction cs generalizing p with
  | nil => exact h p rfl
  | cons c cs ih =>
    rw [List.getLast?_cons_cons] at h
    have ih := ih h
    cases hc : isDelimiter c with
    | true =>
      rw [hc] at ih
      rw [snakeAfter_delimiter hc, hc]
      cases hp : isDelimiter p with
      | true => exact ih
      | false => exact ⟨fun _ => ⟨rfl, rfl⟩, ih⟩
    | false =>
      rw [hc] at ih
      rw [snakeAfter_letter hc, hc]
      cases hstart : startsWord p c cs with
      | true =>
        rw [isDelimiter_of_startsWord hstart]
        exact ⟨fun _ => ⟨rfl, rfl⟩, (tidyAfter_cons hc).2 ih⟩
      | false => exact (tidyAfter_cons hc).2 ih

/-- A text in which words are marked is tidy. -/
theorem isTidy_snakeWords (cs : List Char) : IsTidy (snakeWords cs) := by
  obtain ⟨hhead, hlast⟩ := trimDelimiters_ends cs
  unfold snakeWords
  cases hcs : trimDelimiters cs with
  | nil => exact .inl rfl
  | cons c rest =>
    rw [hcs] at hhead hlast
    have hc := hhead c rfl
    have htidy := tidyAfter_snakeAfter hlast
    rw [hc] at htidy
    exact .inr ((tidyAfter_cons hc).2 htidy)

/-- The words of a text are those of the words, joined by underscores. -/
theorem snakeWords_snakeWords (cs : List Char) : snakeWords (snakeWords cs) = snakeWords cs := by
  have htidy := isTidy_snakeWords cs
  unfold snakeWords at htidy
  rw [snakeWords.eq_def cs]
  cases hcs : trimDelimiters cs with
  | nil => rfl
  | cons c rest =>
    have hc : isDelimiter c = false := (trimDelimiters_ends cs).1 c (by rw [hcs]; rfl)
    rw [hcs] at htidy
    dsimp only at htidy ⊢
    rw [htidy.snakeWords, ← hc]
    have hagain := snakeAfter_snakeAfter c rest
    rw [asMark_of_letter hc] at hagain
    rw [hagain]

/-- To mark the words of a tidy text changes nothing just when they are marked. -/
theorem snakeAfter_eq_self_iff {p : Char} {cs : List Char} (h : TidyAfter (isDelimiter p) cs) :
    snakeAfter p (isDelimiter p) cs = cs ↔ MarksWords (p :: cs) := by
  induction cs generalizing p with
  | nil => exact iff_of_true rfl (marksWords_singleton p)
  | cons c cs ih =>
    obtain ⟨hmark, hcs⟩ := h
    rw [marksWords_cons_cons]
    cases hc : isDelimiter c with
    | true =>
      obtain ⟨rfl, hp⟩ := hmark hc
      have hstart : startsWord p '_' cs = false := by simp [startsWord, isUpper_mark]
      rw [snakeAfter_delimiter hc, hp, if_neg Bool.false_ne_true, List.singleton_append,
        List.cons_inj_right, ih hcs, hstart]
      simp
    | false =>
      rw [snakeAfter_letter hc]
      cases hstart : startsWord p c cs with
      | true =>
        refine iff_of_false (fun heq => ?_) fun h => Bool.noConfusion h.1
        rw [← (List.cons.inj heq).1] at hc
        cases hc
      | false =>
        rw [if_neg Bool.false_ne_true, List.singleton_append, List.cons_inj_right, ih hcs]
        simp

/-- A tidy text stays as it is just when its words are marked. -/
theorem snakeWords_eq_self_iff {cs : List Char} (h : IsTidy cs) :
    snakeWords cs = cs ↔ MarksWords cs := by
  cases cs with
  | nil => exact iff_of_true rfl marksWords_nil
  | cons c cs =>
    rw [h.snakeWords, List.cons_inj_right]
    rcases h with h | h
    · cases h
    · exact snakeAfter_eq_self_iff h.2

/-! ## Lower case -/

/-- Before a tidy text there may be any characters that are no delimiters. -/
theorem tidyAfter_append {cs ds : List Char} (hds : ∀ d ∈ ds, isDelimiter d = false)
    (h : TidyAfter false cs) : TidyAfter false (ds ++ cs) := by
  induction ds with
  | nil => exact h
  | cons d ds ih =>
    obtain ⟨hd, hds⟩ := List.forall_mem_cons.1 hds
    exact (tidyAfter_cons hd).2 (ih hds)

/-- In lower case delimiters are where they were. -/
theorem tidyAfter_lowerAfter {b : Bool} {cs : List Char} (h : TidyAfter b cs) (before : List Char) :
    TidyAfter b (lowerAfter before cs) := by
  induction cs generalizing b before with
  | nil => exact h
  | cons c cs ih =>
    have hrest := ih h.2 (c :: before)
    obtain ⟨ds, hds, heq⟩ := lowersTo_cons before c cs
    rw [heq]
    cases hds with
    | stays => exact ⟨h.1, hrest⟩
    | falls hc hne hds =>
      cases ds with
      | nil => exact absurd rfl hne
      | cons d ds =>
        obtain ⟨hd, hds⟩ := List.forall_mem_cons.1 hds
        rw [hc] at hrest
        exact (tidyAfter_cons hd.delimiter).2
          (tidyAfter_append (fun d h => (hds d h).delimiter) hrest)

/-- The lower case of a tidy text is tidy, since no letter becomes a delimiter. -/
theorem isTidy_lowerCase {cs : List Char} (h : IsTidy cs) : IsTidy (lowerCase cs) := by
  rcases h with rfl | h
  · exact .inl rfl
  · exact .inr (tidyAfter_lowerAfter h [])

/-- In the words of a lower-case text all letters are small already. -/
theorem lowerCase_snakeWords {cs : List Char} (h : ∀ c ∈ cs, IsSettled c) :
    lowerCase (snakeWords cs) = snakeWords cs := by
  refine lowerAfter_eq_self (fun d hd => ?_) []
  rcases mem_snakeWords hd with hd | rfl
  · exact h d hd
  · exact isSettled_of_isDelimiter rfl

/-! ## The form of a form -/

/-- The characters of the form: first words are marked, and then capitals are made small. -/
theorem toList_lowerSnakeCase (s : String) :
    (lowerSnakeCase s).toList = lowerCase (snakeWords s.toList) := String.toList_ofList

/-- All characters of the form are settled. -/
theorem isSettled_of_mem_lowerSnakeCase {s : String} :
    ∀ c ∈ (lowerSnakeCase s).toList, IsSettled c := by
  rw [toList_lowerSnakeCase]
  exact fun c hc => isSettled_of_mem_lowerAfter hc

/-- To take the form of a form is to mark its words. -/
theorem toList_lowerSnakeCase_again (s : String) :
    (lowerSnakeCase (lowerSnakeCase s)).toList = snakeWords (lowerSnakeCase s).toList := by
  rw [toList_lowerSnakeCase, lowerCase_snakeWords isSettled_of_mem_lowerSnakeCase]

/-- The form of the form is the form just when its words are marked. -/
theorem lowerSnakeCase_lowerSnakeCase_eq_iff (s : String) :
    lowerSnakeCase (lowerSnakeCase s) = lowerSnakeCase s ↔
      MarksWords (lowerSnakeCase s).toList := by
  have htidy : IsTidy (lowerSnakeCase s).toList := by
    rw [toList_lowerSnakeCase]
    exact isTidy_lowerCase (isTidy_snakeWords _)
  rw [← snakeWords_eq_self_iff htidy, ← toList_lowerSnakeCase_again, String.toList_inj]

/-- A capital in a lower_snake_case form is one of the text, and has no lower-case form. -/
theorem mem_of_mem_lowerSnakeCase {s : String} {c : Char} (h : c ∈ (lowerSnakeCase s).toList)
    (hc : isUpper c = true) : c ∈ s.toList ∧ lowerChars c = [c] := by
  refine ⟨?_, (isSettled_of_mem_lowerSnakeCase c h).1⟩
  rw [toList_lowerSnakeCase] at h
  rcases mem_snakeWords (mem_of_mem_lowerAfter hc h) with h | rfl
  · exact h
  · rw [isUpper_mark] at hc
    cases hc

/-- The form of the form is final. -/
theorem lowerSnakeCase_lowerSnakeCase_lowerSnakeCase (s : String) :
    lowerSnakeCase (lowerSnakeCase (lowerSnakeCase s)) = lowerSnakeCase (lowerSnakeCase s) := by
  rw [← String.toList_inj, toList_lowerSnakeCase_again (lowerSnakeCase s),
    toList_lowerSnakeCase_again s, snakeWords_snakeWords]

end SchemaCheck.Text
