import SchemaCheck.Proofs.Demo.Findings
import SchemaCheck.Proofs.Text.SnakeCase

/-!
# Following the suggestion

The rule about the names of fields suggests the lower_snake_case form of a name. A field that is
renamed to it passes the rule just when no word of the form starts at a capital, and passes after
one more renaming in any case (`Demo.suggestions_settle`). A capital is left in a form when it has
no lower-case letter, and so there are names whose suggestion does not pass
(`Demo.suggestion_objected`).
-/

namespace SchemaCheck.Demo

open Text

/-- What becomes of a name whose lower_snake_case form is taken again and again. -/
structure Settles (s : String) : Prop where
  /-- The form is its own form just when all words of it are marked. -/
  form_iff : lowerSnakeCase (lowerSnakeCase s) = lowerSnakeCase s ↔
    MarksWords (lowerSnakeCase s).toList
  /-- A capital in the form is one of the name, and has no lower-case form. -/
  capitals : ∀ c ∈ (lowerSnakeCase s).toList, isUpper c = true → c ∈ s.toList ∧ lowerChars c = [c]
  /-- The form is its own form if all capitals of the name have lower-case forms. -/
  form : (∀ c ∈ s.toList, isUpper c = true → lowerChars c ≠ [c]) →
    lowerSnakeCase (lowerSnakeCase s) = lowerSnakeCase s
  /-- The form of the form is its own form. -/
  final : lowerSnakeCase (lowerSnakeCase (lowerSnakeCase s)) = lowerSnakeCase (lowerSnakeCase s)

/-- Where there are no capitals all words are marked. -/
theorem marksWords_of_no_capital {cs : List Char} (h : ∀ c ∈ cs, isUpper c = false) :
    MarksWords cs := by
  rintro before p c rest rfl
  have hc : isUpper c = false := h c (by simp)
  simp [startsWord, hc]

/-- The form of the form is final for every name, and the form itself unless some capital has no
small letter. -/
theorem settles (s : String) : Settles s where
  form_iff := lowerSnakeCase_lowerSnakeCase_eq_iff s
  capitals _ h hc := mem_of_mem_lowerSnakeCase h hc
  form h := by
    refine (lowerSnakeCase_lowerSnakeCase_eq_iff s).2 (marksWords_of_no_capital fun c hc => ?_)
    refine Bool.eq_false_iff.2 fun hupper => ?_
    obtain ⟨hmem, hsame⟩ := mem_of_mem_lowerSnakeCase hc hupper
    exact h c hmem hupper hsame
  final := lowerSnakeCase_lowerSnakeCase_lowerSnakeCase s

/-- The rule about names is silent just when each name is its own lower_snake_case form. -/
theorem fieldNameRule_silent_iff {r : Request} :
    fieldNameRule.Finds r [] ↔ ∀ x ∈ r.fields, x.name = lowerSnakeCase x.name := by
  have hnone : fieldNameEntries r = [] ↔ ∀ x ∈ r.fields, x.name = lowerSnakeCase x.name := by
    simp only [fieldNameEntries, List.map_eq_nil_iff, List.filter_eq_nil_iff, decide_eq_true_eq,
      ne_eq, not_not]
  rw [← hnone]
  constructor
  · exact fun h => (fieldNameRule_finds r).unique checkFieldName_inputOnly h
  · exact fun h => h ▸ fieldNameRule_finds r

/-- The form of a name is its own form just when all words of it are marked. So fields with names
that the rule suggested pass it just when all words of these names are marked, and once the rule was
followed twice it is silent. -/
theorem suggestions_settle (s : String) (r : Request) :
    Settles s ∧
    ((∀ x ∈ r.fields, ∃ t, x.name = lowerSnakeCase t) →
      (fieldNameRule.Finds r [] ↔ ∀ x ∈ r.fields, MarksWords x.name.toList)) ∧
    ((∀ x ∈ r.fields, ∃ t, x.name = lowerSnakeCase (lowerSnakeCase t)) →
      fieldNameRule.Finds r []) := by
  refine ⟨settles s, fun hr => ?_, fun hr => ?_⟩
  · rw [fieldNameRule_silent_iff]
    refine forall₂_congr fun x hx => ?_
    obtain ⟨t, ht⟩ := hr x hx
    rw [ht]
    exact eq_comm.trans (settles t).form_iff
  · refine fieldNameRule_silent_iff.2 fun x hx => ?_
    obtain ⟨t, ht⟩ := hr x hx
    rw [ht]
    exact (settles t).final.symm

/-- The double-struck C is a capital without a lower-case letter. Once the capital before it is
small, a word starts at it. -/
theorem suggestion_objected : lowerSnakeCase "Aℂ" = "aℂ" ∧ lowerSnakeCase "aℂ" = "a_ℂ" ∧
    ¬ ∀ s : String, lowerSnakeCase (lowerSnakeCase s) = lowerSnakeCase s := by
  have hform : lowerSnakeCase "Aℂ" = "aℂ" := by decide +kernel
  have hagain : lowerSnakeCase "aℂ" = "a_ℂ" := by decide +kernel
  refine ⟨hform, hagain, fun h => ?_⟩
  have h := h "Aℂ"
  rw [hform, hagain] at h
  exact absurd h (by decide)

end SchemaCheck.Demo
