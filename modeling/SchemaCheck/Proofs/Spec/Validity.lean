import SchemaCheck.Spec.Validation

/-!
# What makes a spec valid

A spec is valid just when it passes every check (`Spec.isValid_iff`), and each check asks for what
its name says (`Identifier.requireUnique_eq_ok_iff`, `checkEach_eq_ok_iff`,
`Spec.checkRule_eq_ok_iff`).
-/

namespace SchemaCheck

/-- Two checks pass when each does. -/
theorem bind_eq_ok_iff {α : Type} {first : Result Unit} {next : Result α} {a : α} :
    (do first; next) = .ok a ↔ first = .ok () ∧ next = .ok a := by
  cases first with
  | ok u => simp [bind, Except.bind]
  | error e => simp [bind, Except.bind]

/-- When two computations succeed one after the other, the second goes on from a value of the first.
-/
theorem exists_of_bind_eq_ok {ε α β : Type} {first : Except ε α} {next : α → Except ε β} {b : β}
    (h : first >>= next = .ok b) : ∃ a, first = .ok a ∧ next a = .ok b := by
  cases first with
  | ok a => exact ⟨a, rfl, h⟩
  | error e => cases h

/-- A check that comes after a condition passes when the condition fails and it does. -/
theorem unless_eq_ok_iff {α : Type} {b : Bool} {e : Fault} {next : Result α} {a : α} :
    (if b = true then (throw e : Result Unit) >>= fun _ => next else next) = .ok a ↔
      b = false ∧ next = .ok a := by
  cases b with
  | true => simp [throw, throwThe, MonadExceptOf.throw, bind, Except.bind]
  | false => simp

/-- All members of a list pass a test. -/
theorem checkEach_eq_ok_iff {α : Type} {test : α → Result Unit} {as : List α} :
    checkEach test as = .ok () ↔ ∀ a ∈ as, test a = .ok () := by
  induction as with
  | nil => simp [checkEach]
  | cons a as ih =>
    rw [checkEach, bind_eq_ok_iff, ih]
    simp

namespace Text

/-- To drop repetitions leaves something of what is there. -/
theorem dropRepeats_eq_nil_iff {ts : List String} : dropRepeats ts = [] ↔ ts = [] := by
  rw [List.eq_nil_iff_forall_not_mem, List.eq_nil_iff_forall_not_mem]
  exact forall_congr' fun t => not_congr mem_dropRepeats

/-- A sorted list has no neighbours that are equal just when it has no repetitions. -/
theorem repeats_eq_nil_iff {ts : List String} (h : ts.Pairwise (· ≤ ·)) :
    repeats ts = [] ↔ ts.Nodup := by
  fun_induction repeats ts with
  | case1 => simp
  | case2 => simp
  | case3 a rest ih => simp
  | case4 a b rest hab ih =>
    obtain ⟨ha, hrest⟩ := List.pairwise_cons.1 h
    have hnot : a ∉ b :: rest := by
      intro hmem
      rcases List.mem_cons.1 hmem with rfl | hmem
      · exact hab rfl
      · have hba : b ≤ a := (List.pairwise_cons.1 hrest).1 a hmem
        exact hab (String.le_antisymm (ha b List.mem_cons_self) hba)
    rw [ih hrest]
    exact (List.nodup_cons.trans (and_iff_right hnot)).symm

/-- Nothing is reported when nothing is repeated. -/
theorem duplicates_eq_nil_iff {ts : List String} : duplicates ts = [] ↔ ts.Nodup := by
  have hperm : (sorted ts).Perm ts := List.mergeSort_perm ts _
  rw [duplicates, dropRepeats_eq_nil_iff, repeats_eq_nil_iff (pairwise_sorted ts), hperm.nodup_iff]

end Text

namespace Identifier

/-- The lists that are accepted are those without repetitions. -/
theorem requireUnique_eq_ok_iff {kind : IdKind} {ids : List String} :
    requireUnique kind ids = .ok () ↔ ids.Nodup := by
  rw [← Text.duplicates_eq_nil_iff]
  unfold requireUnique
  split
  · next h => simp [h]
  · next repeated hne =>
    simp only [reduceCtorEq, false_iff]
    exact hne

end Identifier

namespace Spec

variable {s : Spec}

/-- A rule is accepted when it has a purpose, names known categories once each, is no default while
it is deprecated, and its replacements are. -/
theorem checkRule_eq_ok_iff {r : RuleEntry} :
    s.checkRule r = .ok () ↔ r.purpose ≠ "" ∧ r.categoryIds.Nodup ∧
      (∀ id ∈ r.categoryIds, id ∈ s.categoryIds) ∧ ¬ (r.deprecated ∧ r.isDefault) ∧
      checkReplacements .rule r.id r.deprecated r.replacementIds s.ruleDeprecation = .ok () := by
  have hknown : checkEach (fun id => if s.categoryIds.contains id then .ok ()
      else .error (.danglingCategory r.id id)) r.categoryIds = .ok () ↔
      ∀ id ∈ r.categoryIds, id ∈ s.categoryIds := by
    rw [checkEach_eq_ok_iff]
    refine forall₂_congr fun id _ => ?_
    by_cases h : id ∈ s.categoryIds <;> simp [h]
  rw [checkRule, unless_eq_ok_iff, bind_eq_ok_iff, bind_eq_ok_iff, unless_eq_ok_iff, hknown,
    Identifier.requireUnique_eq_ok_iff]
  simp

/-- A spec is valid when it passes every check. -/
theorem isValid_iff : s.IsValid ↔ s.rules ≠ [] ∧
    (∀ id ∈ s.ruleIds, Identifier.isWellFormed .rule id) ∧
    (∀ id ∈ s.categoryIds, Identifier.isWellFormed .category id) ∧
    s.ruleIds.Nodup ∧ s.categoryIds.Nodup ∧ (s.ruleIds ++ s.categoryIds).Nodup ∧
    (∀ r ∈ s.ruleEntries, s.checkRule r = .ok ()) ∧
    (∀ c ∈ s.categories, s.checkCategory c = .ok ()) ∧
    (∀ c ∈ s.categories, s.checkReferenced c = .ok ()) := by
  simp only [IsValid, validate, unless_eq_ok_iff, bind_eq_ok_iff, checkEach_eq_ok_iff,
    Identifier.checkAll_eq_ok_iff, Identifier.requireUnique_eq_ok_iff, List.isEmpty_eq_false_iff]

section

variable (h : s.IsValid)

include h

/-- The rules of a valid spec have well-formed identifiers. -/
theorem IsValid.ruleIds_wellFormed : ∀ id ∈ s.ruleIds, Identifier.isWellFormed .rule id :=
  (isValid_iff.1 h).2.1

/-- The categories of a valid spec have well-formed identifiers. -/
theorem IsValid.categoryIds_wellFormed :
    ∀ id ∈ s.categoryIds, Identifier.isWellFormed .category id :=
  (isValid_iff.1 h).2.2.1

/-- No two rules of a valid spec have one identifier. -/
theorem IsValid.nodup_ruleIds : s.ruleIds.Nodup := (isValid_iff.1 h).2.2.2.1

/-- No two categories of a valid spec have one identifier. -/
theorem IsValid.nodup_categoryIds : s.categoryIds.Nodup := (isValid_iff.1 h).2.2.2.2.1

/-- Rules name known categories. -/
theorem IsValid.categoryIds_known {e : RuleEntry} (he : e ∈ s.ruleEntries) :
    ∀ id ∈ e.categoryIds, id ∈ s.categoryIds := by
  obtain ⟨-, -, -, -, -, -, hrules, -⟩ := isValid_iff.1 h
  exact (checkRule_eq_ok_iff.1 (hrules e he)).2.2.1

end

end Spec

end SchemaCheck
