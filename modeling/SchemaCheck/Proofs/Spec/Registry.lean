import Mathlib.Data.List.Nodup
import Mathlib.Data.List.Sort
import SchemaCheck.Proofs.Spec.Validity

/-!
# The registry that a valid spec is

What a valid spec is, said of its entries and not of the checks (`Spec.Registered`), and what is
wrong with one that is not, stage by stage (`Spec.Violates`). Validation decides just this: it
passes the specs that are registries, and of any other it reports something that is wrong, at the
first stage at which something is (`Spec.validate_decides`).
-/

namespace SchemaCheck

open Text (quoted)

/-! ## Repetitions -/

namespace Text

variable {ts : List String} {x : String}

/-- In a sorted list the entries that equal the one after them are those that occur twice. -/
theorem mem_repeats (h : ts.Pairwise (· ≤ ·)) : x ∈ repeats ts ↔ 2 ≤ ts.count x := by
  fun_induction repeats ts with
  | case1 => simp
  | case2 a =>
    have hcount : [a].count x ≤ 1 := List.count_le_length
    simp only [List.not_mem_nil, false_iff]
    omega
  | case3 a rest ih =>
    rw [List.mem_cons, ih (List.pairwise_cons.1 h).2]
    by_cases hx : x = a
    · subst hx
      simp
    · simp [hx, List.count_cons_of_ne (Ne.symm hx)]
  | case4 a b rest hab ih =>
    obtain ⟨ha, hrest⟩ := List.pairwise_cons.1 h
    rw [ih hrest]
    by_cases hx : x = a
    · subst hx
      have hnot : x ∉ b :: rest := by
        intro hmem
        rcases List.mem_cons.1 hmem with hb | hmem
        · exact hab hb
        · have hbx : b ≤ x := (List.pairwise_cons.1 hrest).1 x hmem
          exact hab (String.le_antisymm (ha b List.mem_cons_self) hbx)
      rw [List.count_cons_self, List.count_eq_zero_of_not_mem hnot]
      omega
    · rw [List.count_cons_of_ne (Ne.symm hx)]

/-- The repetitions of a list are among its entries, in order. -/
theorem repeats_sublist (ts : List String) : (repeats ts).Sublist ts := by
  fun_induction repeats ts with
  | case1 => exact .slnil
  | case2 a => exact List.nil_sublist _
  | case3 a rest ih => exact ih.cons_cons a
  | case4 a b rest hab ih => exact ih.cons a

/-- What is reported are the entries of a list that occur in it more than once, in order and each
once, and there are such. -/
structure AreRepeated (ts reported : List String) : Prop where
  ne_nil : reported ≠ []
  sorted : reported.Pairwise (· < ·)
  mem_iff : ∀ x, x ∈ reported ↔ 2 ≤ ts.count x

/-- Reported are the entries that occur twice or more. -/
theorem mem_duplicates : x ∈ duplicates ts ↔ 2 ≤ ts.count x := by
  have hperm : (sorted ts).Perm ts := List.mergeSort_perm ts _
  rw [duplicates, mem_dropRepeats, mem_repeats (pairwise_sorted ts), hperm.count_eq]

/-- What is reported ascends, and so has each entry once. -/
theorem pairwise_duplicates (ts : List String) : (duplicates ts).Pairwise (· < ·) :=
  pairwise_dropRepeats ((pairwise_sorted ts).sublist (repeats_sublist _))

/-- There is one way to report what is repeated. -/
theorem AreRepeated.eq_duplicates {reported : List String} (h : AreRepeated ts reported) :
    reported = duplicates ts :=
  h.sorted.eq_of_mem_iff (pairwise_duplicates ts) fun x => (h.mem_iff x).trans mem_duplicates.symm

/-- Nothing occurs more than once when nothing does so to report. -/
theorem not_areRepeated_iff : (∀ reported, ¬ AreRepeated ts reported) ↔ ts.Nodup := by
  rw [← duplicates_eq_nil_iff]
  constructor
  · intro h
    by_contra hne
    exact h _ ⟨hne, pairwise_duplicates ts, fun x => mem_duplicates⟩
  · intro hnil reported h
    obtain ⟨x, hx⟩ := List.exists_mem_of_ne_nil _ h.ne_nil
    have hdup : x ∈ duplicates ts := mem_duplicates.2 ((h.mem_iff x).1 hx)
    rw [hnil] at hdup
    exact absurd hdup List.not_mem_nil

end Text

/-! ## Well-formed identifiers -/

namespace Identifier

/-- The form of an identifier: four bytes at least, letters of the family and underscores, and a
letter at either end. -/
structure Formed (kind : IdKind) (id : String) : Prop where
  length : 4 ≤ id.utf8ByteSize
  family : ∀ c ∈ id.toList, kind.isLetter c ∨ c = '_'
  first : ∃ c, id.toList.head? = some c ∧ kind.isLetter c
  last : ∃ c, id.toList.getLast? = some c ∧ kind.isLetter c

/-- What is wrong with the form of an identifier, in the words of the fault that reports it. -/
inductive Flaw (kind : IdKind) (id : String) : String → Prop where
  | empty : id = "" → Flaw kind id "must not be empty"
  | short : id ≠ "" → id.utf8ByteSize < 4 → Flaw kind id "must have at least four characters"
  | family : 4 ≤ id.utf8ByteSize → ¬ Formed kind id → Flaw kind id kind.familyRule

variable {kind : IdKind} {id : String}

/-- Letters of all families are ASCII. -/
theorem utf8Size_of_isLetter {c : Char} (h : kind.isLetter c) : c.utf8Size = 1 := by
  have hle : c.val ≤ 'z'.val := by
    cases kind <;> simp only [IdKind.isLetter, Bool.and_eq_true, decide_eq_true_eq] at h <;>
      exact UInt32.le_trans h.2 (by decide)
  have hascii : c.val ≤ 0x7F := UInt32.le_trans hle (by decide)
  exact Char.utf8Size_eq_one_iff.2 hascii

/-- An identifier of four bytes has its family's characters just when it is formed. The family asks
for two letters at least, which four bytes of such characters have. -/
theorem inFamily_iff (hlength : 4 ≤ id.utf8ByteSize) :
    inFamily kind id.toList = true ↔ Formed kind id := by
  have hends : ∀ o : Option Char,
      o.any kind.isLetter = true ↔ ∃ c, o = some c ∧ kind.isLetter c := by
    intro o
    cases o <;> simp
  simp only [inFamily, Bool.and_eq_true, decide_eq_true_eq, List.all_eq_true, Bool.or_eq_true,
    beq_iff_eq, hends]
  constructor
  · rintro ⟨⟨⟨-, hfamily⟩, hfirst⟩, hlast⟩
    exact ⟨hlength, hfamily, hfirst, hlast⟩
  · rintro ⟨-, hfamily, hfirst, hlast⟩
    refine ⟨⟨⟨?_, hfamily⟩, hfirst⟩, hlast⟩
    by_contra hshort
    obtain ⟨c, hc, hletter⟩ := hfirst
    have hone : id.toList = [c] := by
      cases hcs : id.toList with
      | nil => simp [hcs] at hc
      | cons d ds =>
        rw [hcs] at hc hshort
        obtain rfl : d = c := Option.some.inj hc
        cases ds with
        | nil => rfl
        | cons e es => simp at hshort
    have hid : id = String.ofList [c] := by rw [← hone, String.ofList_toList]
    have hsize : id.utf8ByteSize = 1 := by
      rw [hid]
      simpa using utf8Size_of_isLetter hletter
    omega

/-- An identifier passes the checks just when it is formed as it must be. -/
theorem isWellFormed_iff : isWellFormed kind id = true ↔ Formed kind id := by
  unfold isWellFormed violation?
  split
  · next hempty =>
    have hid : id = "" := by simpa using hempty
    simp only [Option.isNone_some, Bool.false_eq_true, false_iff]
    rintro ⟨hlength, -⟩
    rw [hid] at hlength
    exact absurd hlength (by decide)
  · split
    · next hshort =>
      simp only [Option.isNone_some, Bool.false_eq_true, false_iff]
      exact fun h => absurd h.length (Nat.not_le.2 hshort)
    · next hlength =>
      rw [← inFamily_iff (Nat.not_lt.1 hlength)]
      split
      · next h => simp [h]
      · next h => simp [h]

/-- The reason that is reported is what is wrong. -/
theorem flaw_of_violation? {reason : String} (h : violation? kind id = some reason) :
    Flaw kind id reason := by
  have hnot : ¬ Formed kind id := by
    rw [← isWellFormed_iff, isWellFormed, h]
    simp
  unfold violation? at h
  split at h
  · next hempty =>
    cases h
    exact .empty (by simpa using hempty)
  · next hempty =>
    split at h
    · next hshort =>
      cases h
      exact .short (by simpa using hempty) hshort
    · next hlength =>
      split at h
      · cases h
      · cases h
        exact .family (Nat.not_lt.1 hlength) hnot

/-- Nothing is wrong with a formed identifier. -/
theorem Flaw.not_formed {reason : String} (h : Flaw kind id reason) : ¬ Formed kind id := by
  intro hformed
  cases h with
  | empty hid =>
    have hlength := hformed.length
    rw [hid] at hlength
    exact absurd hlength (by decide)
  | short _ hshort => exact absurd hformed.length (Nat.not_le.2 hshort)
  | family _ hnot => exact hnot hformed

end Identifier

/-! ## Checks that decide -/

/-- A check decides which faults are due: it passes when none is, and raises one that is. -/
def Decides (result : Result Unit) (due : Fault → Prop) : Prop :=
  match result with
  | .ok () => ∀ e, ¬ due e
  | .error e => due e

/-- A check in stages: it passes when no stage is violated, and raises a violation of the first one
that is. -/
def DecidesInTurn {κ : Type} (result : Result Unit) (violates : κ → Fault → Prop)
    (stages : List κ) : Prop :=
  match result with
  | .ok () => ∀ stage ∈ stages, ∀ e, ¬ violates stage e
  | .error e => ∃ before stage after, stages = before ++ stage :: after ∧ violates stage e ∧
      ∀ earlier ∈ before, ∀ f, ¬ violates earlier f

namespace Decides

variable {α : Type} {first next result : Result Unit} {due dueNext : Fault → Prop}

/-- A check passes just when no fault is due. -/
theorem ok_iff (h : Decides result due) : result = .ok () ↔ ∀ e, ¬ due e := by
  cases result with
  | ok u => exact ⟨fun _ => h, fun _ => rfl⟩
  | error e => exact ⟨fun heq => (nomatch heq), fun hnone => absurd h (hnone e)⟩

/-- A check decides whatever is due in the same cases. -/
theorem congr (h : Decides result due) (heq : ∀ e, due e ↔ dueNext e) : Decides result dueNext := by
  cases result with
  | ok u => exact fun e he => h e ((heq e).2 he)
  | error e => exact (heq e).1 h

/-- Two checks, one after the other, decide what either decides. -/
theorem bind (h : Decides first due) (hn : Decides next dueNext) :
    Decides (do first; next) fun e => due e ∨ dueNext e := by
  cases first with
  | error e => exact .inl h
  | ok u =>
    cases next with
    | error e => exact .inr hn
    | ok v => exact fun e he => he.elim (h e) (hn e)

/-- A condition that raises a fault is one more thing to decide. -/
theorem ifThrow {b : Bool} {fault : Fault} (h : Decides next due) :
    Decides (if b = true then (throw fault : Result Unit) >>= fun _ => next else next)
      fun e => (b = true ∧ e = fault) ∨ due e := by
  cases b with
  | true => exact .inl ⟨rfl, rfl⟩
  | false => exact h.congr fun e => by simp

/-- A test of all members of a list decides what is due for one of them. -/
theorem checkEach {test : α → Result Unit} {due : α → Fault → Prop} {as : List α}
    (h : ∀ a ∈ as, Decides (test a) (due a)) :
    Decides (checkEach test as) fun e => ∃ a ∈ as, due a e := by
  induction as with
  | nil => exact fun e he => by simp at he
  | cons a as ih =>
    refine ((h a List.mem_cons_self).bind (ih fun b hb => h b (List.mem_cons_of_mem _ hb))).congr
      fun e => ?_
    simp

end Decides

namespace DecidesInTurn

variable {α κ : Type} {first next result : Result Unit} {violates : κ → Fault → Prop}
  {stages later : List κ} {stage : κ}

/-- A check that decides the violations of a stage is a stage. -/
theorem single (h : Decides result (violates stage)) : DecidesInTurn result violates [stage] := by
  cases result with
  | ok u => simpa [DecidesInTurn, Decides] using h
  | error e => exact ⟨[], stage, [], rfl, h, by simp⟩

/-- The stages of a check come before those of the check that follows it, which may rely on them. -/
theorem bind (h : DecidesInTurn first violates stages)
    (hn : first = .ok () → DecidesInTurn next violates later) :
    DecidesInTurn (do first; next) violates (stages ++ later) := by
  cases first with
  | error e =>
    obtain ⟨before, stage, after, rfl, hviolates, hclear⟩ := h
    exact ⟨before, stage, after ++ later, by simp, hviolates, hclear⟩
  | ok u =>
    have hclear : ∀ stage ∈ stages, ∀ e, ¬ violates stage e := h
    have hn := hn rfl
    cases next with
    | ok v =>
      intro stage hstage
      rcases List.mem_append.1 hstage with hstage | hstage
      · exact hclear stage hstage
      · exact hn stage hstage
    | error e =>
      obtain ⟨before, stage, after, rfl, hviolates, hbefore⟩ := hn
      refine ⟨stages ++ before, stage, after, by simp, hviolates, fun earlier hearlier => ?_⟩
      rcases List.mem_append.1 hearlier with hearlier | hearlier
      · exact hclear earlier hearlier
      · exact hbefore earlier hearlier

/-- A condition that raises a fault is a stage. -/
theorem ifThrow {b : Bool} {fault : Fault} (hstage : ∀ e, violates stage e ↔ b = true ∧ e = fault)
    (h : DecidesInTurn next violates later) :
    DecidesInTurn (if b = true then (throw fault : Result Unit) >>= fun _ => next else next)
      violates (stage :: later) := by
  have hfirst : Decides (if b = true then .error fault else .ok ()) (violates stage) := by
    cases b with
    | true => exact (hstage fault).2 ⟨rfl, rfl⟩
    | false => exact fun e he => Bool.noConfusion ((hstage e).1 he).1
  have hboth := (single hfirst).bind fun _ => h
  cases b <;> exact hboth

/-- A test of all members of a list has a stage for each. -/
theorem checkEach {test : α → Result Unit} {as : List α} {stageOf : α → κ}
    (h : ∀ a ∈ as, Decides (test a) (violates (stageOf a))) :
    DecidesInTurn (checkEach test as) violates (as.map stageOf) := by
  induction as with
  | nil => exact fun stage hstage => absurd hstage List.not_mem_nil
  | cons a as ih =>
    exact (single (h a List.mem_cons_self)).bind fun _ =>
      ih fun b hb => h b (List.mem_cons_of_mem _ hb)

end DecidesInTurn

namespace Identifier

variable {kind : IdKind}

/-- The check of identifiers reports a flaw of one of them. -/
theorem decides_checkAll (ids : List String) : Decides (checkAll kind ids) fun e =>
    ∃ id ∈ ids, ∃ reason, Flaw kind id reason ∧ e = .invalidId kind id reason := by
  have hcheck : ∀ id, Decides (check kind id) fun e =>
      ∃ reason, Flaw kind id reason ∧ e = .invalidId kind id reason := by
    intro id
    unfold check
    split
    · next hnone =>
      rintro e ⟨reason, hflaw, -⟩
      refine hflaw.not_formed (isWellFormed_iff.1 ?_)
      rw [isWellFormed, hnone]
      rfl
    · next reason hsome => exact ⟨reason, flaw_of_violation? hsome, rfl⟩
  have heach : checkAll kind ids = checkEach (check kind) ids := by
    induction ids with
    | nil => rfl
    | cons id ids ih => rw [checkAll, checkEach, ih]
  rw [heach]
  exact Decides.checkEach fun id _ => hcheck id

/-- The check for repetitions reports the repeated ones. -/
theorem decides_requireUnique (ids : List String) : Decides (requireUnique kind ids) fun e =>
    ∃ reported, Text.AreRepeated ids reported ∧ e = .duplicateId kind reported := by
  unfold requireUnique
  split
  · next hnil =>
    rintro e ⟨reported, hrepeated, -⟩
    exact Text.not_areRepeated_iff.2 (Text.duplicates_eq_nil_iff.1 hnil) reported hrepeated
  · next reported hne =>
    exact ⟨_, ⟨hne, Text.pairwise_duplicates ids, fun _ => Text.mem_duplicates⟩, rfl⟩

end Identifier

/-! ## Replacements -/

/-- The replacements of an entry are proper: none unless the entry is deprecated, and then entries
of the same kind that are not. `declared` says of an identifier and a flag whether there is an entry
with that identifier that is deprecated or not, as the flag says. -/
structure ReplacementsProper (deprecated : Bool) (replacements : List String)
    (declared : String → Bool → Prop) : Prop where
  onlyDeprecated : deprecated = false → replacements = []
  declared : ∀ r ∈ replacements, declared r false

/-- What may be wrong with the replacements of an entry. -/
inductive ReplacementFault (kind : IdKind) (id : String) (deprecated : Bool)
    (replacements : List String) (declared : String → Bool → Prop) : Fault → Prop where
  | notDeprecated : deprecated = false → replacements ≠ [] →
      ReplacementFault kind id deprecated replacements declared
        (.invalidReplacement kind id "replacement IDs given but not deprecated")
  | unknown {r : String} : deprecated = true → r ∈ replacements → (∀ flag, ¬ declared r flag) →
      ReplacementFault kind id deprecated replacements declared
        (.invalidReplacement kind id
          ("replacement " ++ quoted r ++ " is not a known " ++ kind.name))
  | deprecated {r : String} : deprecated = true → r ∈ replacements → declared r true →
      ReplacementFault kind id deprecated replacements declared
        (.invalidReplacement kind id ("replacement " ++ quoted r ++ " is itself deprecated"))

section

variable {kind : IdKind} {id : String} {deprecated : Bool} {replacements : List String}
  {deprecation : String → Option Bool} {declared : String → Bool → Prop}
  (h : ∀ r flag, deprecation r = some flag ↔ declared r flag)

include h

/-- The check of replacements reports those of an entry that is not deprecated, and those that are
not declared or deprecated themselves. -/
theorem decides_checkReplacements :
    Decides (checkReplacements kind id deprecated replacements deprecation)
      (ReplacementFault kind id deprecated replacements declared) := by
  unfold checkReplacements
  cases deprecated with
  | false =>
    cases replacements with
    | nil =>
      rintro e (⟨-, hne⟩ | ⟨hflag, -, -⟩ | ⟨hflag, -, -⟩)
      · exact hne rfl
      · cases hflag
      · cases hflag
    | cons r rs => exact .notDeprecated rfl (List.cons_ne_nil _ _)
  | true =>
    -- what is wrong with one replacement
    let due (r : String) (e : Fault) : Prop :=
      ((∀ flag, ¬ declared r flag) ∧ e = .invalidReplacement kind id
        ("replacement " ++ quoted r ++ " is not a known " ++ kind.name)) ∨
      (declared r true ∧ e = .invalidReplacement kind id
        ("replacement " ++ quoted r ++ " is itself deprecated"))
    refine (@Decides.checkEach _ _ due _ fun r _ => ?_).congr fun e => ?_
    · cases hr : deprecation r with
      | none =>
        refine .inl ⟨fun flag hflag => ?_, rfl⟩
        rw [(h r flag).2 hflag] at hr
        cases hr
      | some flag =>
        cases flag with
        | true => exact .inr ⟨(h r true).1 hr, rfl⟩
        | false =>
          rintro e (⟨hnone, -⟩ | ⟨htrue, -⟩)
          · exact hnone false ((h r false).1 hr)
          · rw [(h r true).2 htrue] at hr
            cases hr
    · constructor
      · rintro ⟨r, hr, ⟨hnone, rfl⟩ | ⟨htrue, rfl⟩⟩
        · exact .unknown rfl hr hnone
        · exact .deprecated rfl hr htrue
      · rintro (⟨hflag, -⟩ | @⟨r, -, hr, hnone⟩ | @⟨r, -, hr, htrue⟩)
        · cases hflag
        · exact ⟨r, hr, .inl ⟨hnone, rfl⟩⟩
        · exact ⟨r, hr, .inr ⟨htrue, rfl⟩⟩

/-- Replacements are proper when nothing is wrong with them. -/
theorem checkReplacements_eq_ok_iff :
    checkReplacements kind id deprecated replacements deprecation = .ok () ↔
      ReplacementsProper deprecated replacements declared := by
  rw [(decides_checkReplacements h).ok_iff]
  constructor
  · intro hnone
    cases deprecated with
    | false =>
      have hnil : replacements = [] := by
        by_contra hne
        exact hnone _ (.notDeprecated rfl hne)
      subst hnil
      exact ⟨fun _ => rfl, by simp⟩
    | true =>
      refine ⟨fun hflag => (nomatch hflag), fun r hr => ?_⟩
      cases hdep : deprecation r with
      | none =>
        refine absurd (.unknown rfl hr fun flag hflag => ?_) (hnone _)
        rw [(h r flag).2 hflag] at hdep
        cases hdep
      | some flag =>
        cases flag with
        | true => exact absurd (.deprecated rfl hr ((h r true).1 hdep)) (hnone _)
        | false => exact (h r false).1 hdep
  · rintro ⟨honly, hdeclared⟩ e (⟨hflag, hne⟩ | @⟨r, -, hr, hnone⟩ | @⟨r, -, hr, htrue⟩)
    · exact hne (honly hflag)
    · exact hnone false (hdeclared r hr)
    · have hfalse := (h r false).2 (hdeclared r hr)
      rw [(h r true).2 htrue] at hfalse
      cases hfalse

end

/-- The first entry with a key is the only one, when no key occurs twice. -/
theorem find?_key_eq_some_iff {α : Type} {key : α → String} {as : List α}
    (h : (as.map key).Nodup) {k : String} {a : α} :
    (as.find? fun b => key b == k) = some a ↔ a ∈ as ∧ key a = k := by
  constructor
  · intro hfind
    exact ⟨List.mem_of_find?_eq_some hfind, by simpa using List.find?_some hfind⟩
  · rintro ⟨ha, rfl⟩
    cases hfind : as.find? fun b => key b == key a with
    | none => simpa using List.find?_eq_none.1 hfind a ha
    | some b =>
      have hkey : key b = key a := by simpa using List.find?_some hfind
      rw [List.inj_on_of_nodup_map h (List.mem_of_find?_eq_some hfind) ha hkey]

/-- Nothing is found under a key that nothing has. -/
theorem find?_key_eq_none {α : Type} {key : α → String} {as : List α} {k : String}
    (h : k ∉ as.map key) : (as.find? fun a => key a == k) = none := by
  refine List.find?_eq_none.2 fun a ha hkey => h (List.mem_map.2 ⟨a, ha, ?_⟩)
  simpa using hkey

/-- Either all members of a list have a property, or there is a first one that does not. -/
theorem forall_or_exists_first {α : Type} (p : α → Prop) (as : List α) :
    (∀ a ∈ as, p a) ∨
      ∃ before a after, as = before ++ a :: after ∧ (∀ b ∈ before, p b) ∧ ¬ p a := by
  induction as with
  | nil => exact .inl fun a ha => absurd ha List.not_mem_nil
  | cons a as ih =>
    by_cases ha : p a
    · rcases ih with hall | ⟨before, b, after, rfl, hbefore, hb⟩
      · exact .inl (List.forall_mem_cons.2 ⟨ha, hall⟩)
      · exact .inr ⟨a :: before, b, after, rfl, List.forall_mem_cons.2 ⟨ha, hbefore⟩, hb⟩
    · exact .inr ⟨[], a, as, rfl, fun b hb => absurd hb List.not_mem_nil, ha⟩

/-! ## Registries -/

namespace Spec

/-- Whether a rule with an identifier is declared, deprecated or not as the flag says. -/
def DeclaresRule (s : Spec) (id : String) (deprecated : Bool) : Prop :=
  ∃ r ∈ s.ruleEntries, r.id = id ∧ r.deprecated = deprecated

/-- Whether a category with an identifier is declared, deprecated or not as the flag says. -/
def DeclaresCategory (s : Spec) (id : String) (deprecated : Bool) : Prop :=
  ∃ c ∈ s.categories, c.id = id ∧ c.deprecated = deprecated

/-- What the entry of a rule has to be among the entries of a spec. -/
structure RuleRegistered (s : Spec) (r : RuleEntry) : Prop where
  purpose : r.purpose ≠ ""
  categories_nodup : r.categoryIds.Nodup
  categories_declared : ∀ id ∈ r.categoryIds, id ∈ s.categoryIds
  default : ¬ (r.deprecated = true ∧ r.isDefault = true)
  replacements : ReplacementsProper r.deprecated r.replacementIds s.DeclaresRule

/-- What a category has to be among the entries of a spec. -/
structure CategoryRegistered (s : Spec) (c : Category) : Prop where
  purpose : c.purpose ≠ ""
  replacements : ReplacementsProper c.deprecated c.replacementIds s.DeclaresCategory

/-- The invariants of a registry: there are rules, identifiers are well-formed and each is that of
one entry, and every entry has a purpose, refers to what is there, and is referred to. -/
structure Registered (s : Spec) : Prop where
  rules_ne_nil : s.rules ≠ []
  ruleIds_formed : ∀ id ∈ s.ruleIds, Identifier.Formed .rule id
  categoryIds_formed : ∀ id ∈ s.categoryIds, Identifier.Formed .category id
  ruleIds_nodup : s.ruleIds.Nodup
  categoryIds_nodup : s.categoryIds.Nodup
  ids_disjoint : ∀ id ∈ s.ruleIds, id ∉ s.categoryIds
  rules : ∀ r ∈ s.ruleEntries, s.RuleRegistered r
  categories : ∀ c ∈ s.categories, s.CategoryRegistered c
  referenced : ∀ c ∈ s.categories, ∃ r ∈ s.ruleEntries, c.id ∈ r.categoryIds

/-- The stages of validation, with the entries that have one of their own. -/
inductive Stage where
  | noRules
  | ruleIds
  | categoryIds
  | repeatedRules
  | repeatedCategories
  | sharedIds
  | rule (r : RuleEntry)
  | category (c : Category)
  | orphans

/-- The stages of the validation of a spec, in order. -/
def stages (s : Spec) : List Stage :=
  [.noRules, .ruleIds, .categoryIds, .repeatedRules, .repeatedCategories, .sharedIds] ++
    (s.ruleEntries.map .rule ++ (s.categories.map .category ++ [.orphans]))

/-- What may be wrong with a spec at a stage, with the fault that says so. -/
inductive Violates (s : Spec) : Stage → Fault → Prop where
  | noRules : s.rules = [] → Violates s .noRules (.invalidSpec "spec has no rules")
  | ruleId {id reason : String} : id ∈ s.ruleIds → Identifier.Flaw .rule id reason →
      Violates s .ruleIds (.invalidId .rule id reason)
  | categoryId {id reason : String} : id ∈ s.categoryIds → Identifier.Flaw .category id reason →
      Violates s .categoryIds (.invalidId .category id reason)
  | repeatedRules {ids : List String} : Text.AreRepeated s.ruleIds ids →
      Violates s .repeatedRules (.duplicateId .rule ids)
  | repeatedCategories {ids : List String} : Text.AreRepeated s.categoryIds ids →
      Violates s .repeatedCategories (.duplicateId .category ids)
  | sharedIds {ids : List String} : Text.AreRepeated (s.ruleIds ++ s.categoryIds) ids →
      Violates s .sharedIds (.duplicateId .ruleOrCategory ids)
  | rulePurpose {r : RuleEntry} : r.purpose = "" → Violates s (.rule r) (noPurpose .rule r.id)
  | ruleCategories {r : RuleEntry} {ids : List String} : Text.AreRepeated r.categoryIds ids →
      Violates s (.rule r) (.duplicateId .category ids)
  | dangling {r : RuleEntry} {id : String} : id ∈ r.categoryIds → id ∉ s.categoryIds →
      Violates s (.rule r) (.danglingCategory r.id id)
  | deprecatedDefault {r : RuleEntry} : r.deprecated = true → r.isDefault = true →
      Violates s (.rule r)
        (.invalidSpec ("rule " ++ quoted r.id ++ " is deprecated and cannot be default"))
  | ruleReplacements {r : RuleEntry} {e : Fault} :
      ReplacementFault .rule r.id r.deprecated r.replacementIds s.DeclaresRule e →
      Violates s (.rule r) e
  | categoryPurpose {c : Category} : c.purpose = "" →
      Violates s (.category c) (noPurpose .category c.id)
  | categoryReplacements {c : Category} {e : Fault} :
      ReplacementFault .category c.id c.deprecated c.replacementIds s.DeclaresCategory e →
      Violates s (.category c) e
  | orphan {c : Category} : c ∈ s.categories → (∀ r ∈ s.ruleEntries, c.id ∉ r.categoryIds) →
      Violates s .orphans (.orphanCategory c.id)

section

variable {s : Spec}

/-- A rule is found to be deprecated or not as it is declared. -/
theorem ruleDeprecation_eq_some_iff (h : s.ruleIds.Nodup) (id : String) (deprecated : Bool) :
    s.ruleDeprecation id = some deprecated ↔ s.DeclaresRule id deprecated := by
  have hnodup : (s.rules.map fun r => r.id).Nodup := h
  simp only [ruleDeprecation, Option.map_eq_some_iff, find?_key_eq_some_iff hnodup, DeclaresRule,
    ruleEntries, List.mem_map]
  constructor
  · rintro ⟨r, ⟨hr, hid⟩, hdep⟩
    exact ⟨r.toRuleEntry, ⟨r, hr, rfl⟩, hid, hdep⟩
  · rintro ⟨-, ⟨r, hr, rfl⟩, hid, hdep⟩
    exact ⟨r, ⟨hr, hid⟩, hdep⟩

/-- A category is found to be deprecated or not as it is declared. -/
theorem categoryDeprecation_eq_some_iff (h : s.categoryIds.Nodup) (id : String)
    (deprecated : Bool) :
    s.categoryDeprecation id = some deprecated ↔ s.DeclaresCategory id deprecated := by
  simp only [categoryDeprecation, Option.map_eq_some_iff, find?_key_eq_some_iff h,
    DeclaresCategory, and_assoc]

/-- A category is referenced when some rule names it. -/
theorem checkReferenced_eq_ok_iff {c : Category} :
    s.checkReferenced c = .ok () ↔ ∃ r ∈ s.ruleEntries, c.id ∈ r.categoryIds := by
  have hany : (s.rules.any fun r => r.categoryIds.contains c.id) = true ↔
      ∃ r ∈ s.ruleEntries, c.id ∈ r.categoryIds := by
    simp [ruleEntries]
  rw [← hany, checkReferenced]
  cases s.rules.any fun r => r.categoryIds.contains c.id <;> simp

/-- A category passes its checks just when it is what a category has to be. -/
theorem checkCategory_eq_ok_iff (h : s.categoryIds.Nodup) {c : Category} :
    s.checkCategory c = .ok () ↔ s.CategoryRegistered c := by
  rw [checkCategory, unless_eq_ok_iff,
    checkReplacements_eq_ok_iff (categoryDeprecation_eq_some_iff h)]
  simp only [String.isEmpty_eq_false_iff]
  exact ⟨fun ⟨hpurpose, hproper⟩ => ⟨hpurpose, hproper⟩, fun hc => ⟨hc.purpose, hc.replacements⟩⟩

/-- A rule passes its checks just when it is what a rule has to be. -/
theorem checkRule_eq_ok_iff_registered (h : s.ruleIds.Nodup) {r : RuleEntry} :
    s.checkRule r = .ok () ↔ s.RuleRegistered r := by
  rw [checkRule_eq_ok_iff, checkReplacements_eq_ok_iff (ruleDeprecation_eq_some_iff h)]
  exact ⟨fun ⟨hpurpose, hnodup, hknown, hdefault, hproper⟩ =>
      ⟨hpurpose, hnodup, hknown, hdefault, hproper⟩,
    fun hr => ⟨hr.purpose, hr.categories_nodup, hr.categories_declared, hr.default,
      hr.replacements⟩⟩

/-- The valid specs are the registries. -/
theorem isValid_iff_registered : s.IsValid ↔ s.Registered := by
  have hids : (s.ruleIds ++ s.categoryIds).Nodup ↔ s.ruleIds.Nodup ∧ s.categoryIds.Nodup ∧
      ∀ id ∈ s.ruleIds, id ∉ s.categoryIds := by
    rw [List.nodup_append]
    refine and_congr_right fun _ => and_congr_right fun _ => forall₂_congr fun id _ => ?_
    exact ⟨fun hne hid => hne id hid rfl, fun hnot other hother heq => hnot (heq ▸ hother)⟩
  simp only [isValid_iff, checkReferenced_eq_ok_iff, Identifier.isWellFormed_iff, hids]
  constructor
  · rintro ⟨hne, hrules, hcategories, hnodup, hnodup', ⟨-, -, hdisjoint⟩, hr, hc, href⟩
    exact ⟨hne, hrules, hcategories, hnodup, hnodup', hdisjoint,
      fun r h => (checkRule_eq_ok_iff_registered hnodup).1 (hr r h),
      fun c h => (checkCategory_eq_ok_iff hnodup').1 (hc c h), href⟩
  · intro h
    exact ⟨h.rules_ne_nil, h.ruleIds_formed, h.categoryIds_formed, h.ruleIds_nodup,
      h.categoryIds_nodup, ⟨h.ruleIds_nodup, h.categoryIds_nodup, h.ids_disjoint⟩,
      fun r hr => (checkRule_eq_ok_iff_registered h.ruleIds_nodup).2 (h.rules r hr),
      fun c hc => (checkCategory_eq_ok_iff h.categoryIds_nodup).2 (h.categories c hc),
      h.referenced⟩

/-- The stage of a rule is decided once rules are told apart. -/
theorem decides_checkRule (h : s.ruleIds.Nodup) (r : RuleEntry) :
    Decides (s.checkRule r) (s.Violates (.rule r)) := by
  have hknown : Decides (checkEach (fun id => if s.categoryIds.contains id then .ok ()
      else .error (.danglingCategory r.id id)) r.categoryIds)
      fun e => ∃ id ∈ r.categoryIds, id ∉ s.categoryIds ∧ e = .danglingCategory r.id id := by
    refine Decides.checkEach fun id _ => ?_
    by_cases hid : id ∈ s.categoryIds
    · simp [Decides, hid]
    · simp [Decides, hid]
  refine (((Identifier.decides_requireUnique r.categoryIds).bind (hknown.bind
    (decides_checkReplacements (ruleDeprecation_eq_some_iff h)).ifThrow)).ifThrow).congr fun e => ?_
  simp only [String.isEmpty_iff, Bool.and_eq_true]
  constructor
  · rintro (⟨hpurpose, rfl⟩ | ⟨ids, hids, rfl⟩ | ⟨id, hid, hnot, rfl⟩ |
      ⟨⟨hdep, hdefault⟩, rfl⟩ | hrep)
    · exact .rulePurpose hpurpose
    · exact .ruleCategories hids
    · exact .dangling hid hnot
    · exact .deprecatedDefault hdep hdefault
    · exact .ruleReplacements hrep
  · intro hviolates
    cases hviolates with
    | rulePurpose hpurpose => exact .inl ⟨hpurpose, rfl⟩
    | ruleCategories hids => exact .inr (.inl ⟨_, hids, rfl⟩)
    | dangling hid hnot => exact .inr (.inr (.inl ⟨_, hid, hnot, rfl⟩))
    | deprecatedDefault hdep hdefault => exact .inr (.inr (.inr (.inl ⟨⟨hdep, hdefault⟩, rfl⟩)))
    | ruleReplacements hrep => exact .inr (.inr (.inr (.inr hrep)))

/-- The stage of a category is decided once categories are told apart. -/
theorem decides_checkCategory (h : s.categoryIds.Nodup) (c : Category) :
    Decides (s.checkCategory c) (s.Violates (.category c)) := by
  refine ((decides_checkReplacements (categoryDeprecation_eq_some_iff h)).ifThrow).congr fun e => ?_
  simp only [String.isEmpty_iff]
  constructor
  · rintro (⟨hpurpose, rfl⟩ | hrep)
    · exact .categoryPurpose hpurpose
    · exact .categoryReplacements hrep
  · intro hviolates
    cases hviolates with
    | categoryPurpose hpurpose => exact .inl ⟨hpurpose, rfl⟩
    | categoryReplacements hrep => exact .inr hrep

/-- The last stage reports a category that no rule names. -/
theorem decides_orphans : Decides (checkEach s.checkReferenced s.categories)
    (s.Violates .orphans) := by
  let due (c : Category) (e : Fault) : Prop :=
    (∀ r ∈ s.ruleEntries, c.id ∉ r.categoryIds) ∧ e = .orphanCategory c.id
  refine (@Decides.checkEach _ _ due _ fun c _ => ?_).congr fun e => ?_
  · have hok := @checkReferenced_eq_ok_iff s c
    unfold checkReferenced at hok ⊢
    split
    · next hany =>
      rw [if_pos hany] at hok
      obtain ⟨r, hr, hid⟩ := hok.1 rfl
      exact fun e he => he.1 r hr hid
    · next hany =>
      rw [if_neg hany] at hok
      exact ⟨fun r hr hid => (nomatch hok.2 ⟨r, hr, hid⟩), rfl⟩
  · constructor
    · rintro ⟨c, hc, hnone, rfl⟩
      exact .orphan hc hnone
    · intro hviolates
      cases hviolates with
      | orphan hc hnone => exact ⟨_, hc, hnone, rfl⟩

/-- Validation goes through the stages. Rules and categories are told apart by their identifiers
only once these are known to be different, which the stages before theirs see to. -/
theorem validate_decidesInTurn : DecidesInTurn s.validate s.Violates s.stages := by
  refine DecidesInTurn.ifThrow (fun e => ?_) ?_
  · rw [List.isEmpty_iff]
    constructor
    · rintro ⟨hnil⟩
      exact ⟨hnil, rfl⟩
    · rintro ⟨hnil, rfl⟩
      exact .noRules hnil
  have hruleIds : Decides (Identifier.checkAll .rule s.ruleIds) (s.Violates .ruleIds) :=
    (Identifier.decides_checkAll s.ruleIds).congr fun e =>
      ⟨fun ⟨id, hid, reason, hflaw, he⟩ => he ▸ .ruleId hid hflaw,
        fun h => by cases h with | ruleId hid hflaw => exact ⟨_, hid, _, hflaw, rfl⟩⟩
  have hcategoryIds :
      Decides (Identifier.checkAll .category s.categoryIds) (s.Violates .categoryIds) :=
    (Identifier.decides_checkAll s.categoryIds).congr fun e =>
      ⟨fun ⟨id, hid, reason, hflaw, he⟩ => he ▸ .categoryId hid hflaw,
        fun h => by cases h with | categoryId hid hflaw => exact ⟨_, hid, _, hflaw, rfl⟩⟩
  have hrules : Decides (Identifier.requireUnique .rule s.ruleIds) (s.Violates .repeatedRules) :=
    (Identifier.decides_requireUnique s.ruleIds).congr fun e =>
      ⟨fun ⟨ids, hids, he⟩ => he ▸ .repeatedRules hids,
        fun h => by cases h with | repeatedRules hids => exact ⟨_, hids, rfl⟩⟩
  have hcategories :
      Decides (Identifier.requireUnique .category s.categoryIds) (s.Violates .repeatedCategories) :=
    (Identifier.decides_requireUnique s.categoryIds).congr fun e =>
      ⟨fun ⟨ids, hids, he⟩ => he ▸ .repeatedCategories hids,
        fun h => by cases h with | repeatedCategories hids => exact ⟨_, hids, rfl⟩⟩
  have hshared : Decides (Identifier.requireUnique .ruleOrCategory (s.ruleIds ++ s.categoryIds))
      (s.Violates .sharedIds) :=
    (Identifier.decides_requireUnique (s.ruleIds ++ s.categoryIds)).congr fun e =>
      ⟨fun ⟨ids, hids, he⟩ => he ▸ .sharedIds hids,
        fun h => by cases h with | sharedIds hids => exact ⟨_, hids, rfl⟩⟩
  refine (DecidesInTurn.single hruleIds).bind fun _ => ?_
  refine (DecidesInTurn.single hcategoryIds).bind fun _ => ?_
  refine (DecidesInTurn.single hrules).bind fun hunique => ?_
  refine (DecidesInTurn.single hcategories).bind fun hunique' => ?_
  refine (DecidesInTurn.single hshared).bind fun _ => ?_
  -- the stages so far have passed, so an identifier finds one entry
  have hnodup : s.ruleIds.Nodup := Identifier.requireUnique_eq_ok_iff.1 hunique
  have hnodup' : s.categoryIds.Nodup := Identifier.requireUnique_eq_ok_iff.1 hunique'
  refine (DecidesInTurn.checkEach fun r _ => decides_checkRule hnodup r).bind fun _ => ?_
  refine (DecidesInTurn.checkEach fun c _ => decides_checkCategory hnodup' c).bind fun _ => ?_
  exact DecidesInTurn.single decides_orphans

end

/-- Whether a fault says what is wrong with a spec at some stage, and nothing is wrong with it at an
earlier one. -/
def FirstViolation (s : Spec) (e : Fault) : Prop :=
  ∃ before stage after, s.stages = before ++ stage :: after ∧ s.Violates stage e ∧
    ∀ earlier ∈ before, ∀ f, ¬ s.Violates earlier f

/-- Validation passes the specs that are registries, and of any other it reports what is wrong at
the first stage at which something is. -/
theorem validate_decides (s : Spec) :
    (s.IsValid ↔ s.Registered) ∧ ∀ e, s.validate = .error e → s.FirstViolation e := by
  refine ⟨isValid_iff_registered, fun e herror => ?_⟩
  have hstages := s.validate_decidesInTurn
  rw [herror] at hstages
  exact hstages

end Spec

end SchemaCheck
