import SchemaCheck.Demo
import SchemaCheck.Proofs.Spec.Validity
import SchemaCheck.Proofs.Walk.InputOnly

/-!
# The demonstration rules

The demonstration spec is valid, and its rules look at files and options only and leave the context
alone, so that all that is said of such specs is said of it.
-/

namespace SchemaCheck.Demo

open Activity Handler

/-- What holds of the three rules holds of all. -/
theorem forall_rules {P : RuleSpec → Prop} (hname : P fieldNameRule) (htime : P timestampRule)
    (hdialect : P dialectRule) : ∀ rule ∈ spec.rules, P rule := by
  intro rule hrule
  have hrule : rule ∈ [fieldNameRule, timestampRule, dialectRule] := hrule
  simp only [List.mem_cons, List.not_mem_nil, or_false] at hrule
  rcases hrule with rfl | rfl | rfl
  · exact hname
  · exact htime
  · exact hdialect

/-- A part of the demonstration spec is valid when it has rules, the categories of its rules, and no
others. -/
theorem isValid_of_sublist {s : Spec} (hne : s.rules ≠ []) (hrules : s.rules.Sublist spec.rules)
    (hcategories : s.categories.Sublist spec.categories)
    (hknown : ∀ rule ∈ s.rules, ∀ id ∈ rule.categoryIds, id ∈ s.categoryIds)
    (hreferenced : ∀ c ∈ s.categories, ∃ rule ∈ s.rules, c.id ∈ rule.categoryIds) : s.IsValid := by
  have hnone : ∀ (kind : IdKind) (id : String) (deprecation : String → Option Bool),
      checkReplacements kind id false [] deprecation = .ok () := fun _ _ _ => rfl
  have hwf : (∀ id ∈ spec.ruleIds, Identifier.isWellFormed .rule id) ∧
      ∀ id ∈ spec.categoryIds, Identifier.isWellFormed .category id := by decide +kernel
  have hnodup : (spec.ruleIds ++ spec.categoryIds).Nodup := by decide +kernel
  have hruleIds : s.ruleIds.Sublist spec.ruleIds := hrules.map fun rule : RuleSpec => rule.id
  have hcategoryIds : s.categoryIds.Sublist spec.categoryIds := hcategories.map Category.id
  have hids : (s.ruleIds ++ s.categoryIds).Nodup := hnodup.sublist (hruleIds.append hcategoryIds)
  obtain ⟨hidsRules, hidsCategories, -⟩ := List.nodup_append.1 hids
  refine Spec.isValid_iff.2 ⟨hne, fun id hid => hwf.1 id (hruleIds.subset hid),
    fun id hid => hwf.2 id (hcategoryIds.subset hid), hidsRules, hidsCategories, hids, ?_, ?_, ?_⟩
  · intro e he
    obtain ⟨rule, hrule, rfl⟩ := List.mem_map.1 he
    have hdeclared : ∀ rule ∈ spec.rules, rule.purpose ≠ "" ∧ rule.categoryIds.Nodup ∧
        rule.deprecated = false ∧ rule.replacementIds = [] := by decide +kernel
    obtain ⟨hpurpose, hunique, hdeprecated, hreplacements⟩ := hdeclared rule (hrules.subset hrule)
    refine Spec.checkRule_eq_ok_iff.2 ⟨hpurpose, hunique, hknown rule hrule, ?_, ?_⟩
    · simp [hdeprecated]
    · rw [hdeprecated, hreplacements]
      exact hnone _ _ _
  · intro c hc
    have hdeclared : ∀ c ∈ spec.categories, c.purpose.isEmpty = false ∧ c.deprecated = false ∧
        c.replacementIds = [] := by decide +kernel
    obtain ⟨hpurpose, hdeprecated, hreplacements⟩ := hdeclared c (hcategories.subset hc)
    rw [Spec.checkCategory, unless_eq_ok_iff, hdeprecated, hreplacements]
    exact ⟨hpurpose, hnone _ _ _⟩
  · intro c hc
    obtain ⟨rule, hrule, hid⟩ := hreferenced c hc
    have hany : (s.rules.any fun r => r.categoryIds.contains c.id) = true :=
      List.any_eq_true.2 ⟨rule, hrule, by simpa using hid⟩
    rw [Spec.checkReferenced, if_pos hany]

/-- The demonstration spec is valid. -/
theorem spec_isValid : spec.IsValid :=
  isValid_of_sublist (List.cons_ne_nil _ _) (.refl _) (.refl _) (by decide +kernel)
    (by decide +kernel)

/-- A visit that hands in a draft on some condition does so in all live contexts. -/
theorem determined_give_if (b : Prop) [Decidable b] (d : Draft) :
    (if b then give d else pure () : Activity Draft Unit).Determined := by
  split
  · exact determined_give d
  · exact determined_pure ()

/-- A visit that hands in a draft on some condition leaves the context alone. -/
theorem calm_give_if (b : Prop) [Decidable b] (d : Draft) :
    (if b then give d else pure () : Activity Draft Unit).Calm := by
  split
  · exact calm_give d
  · exact calm_pure ()

/-- The names of fields are all that the rule about names looks at. -/
theorem checkFieldName_inputOnly : checkFieldName.InputOnly :=
  forEachField_inputOnly ⟨fun _ _ _ _ => rfl, fun _ _ _ => determined_give_if _ _⟩

/-- The rule about timestamps looks at fields and at the option for the suffix, which is the same
for all rules of a request. -/
theorem checkTimestamp_inputOnly : checkTimestamp.InputOnly := by
  refine forEachField_inputOnly ⟨fun id r s hrs => ?_, fun id r f => ?_⟩
  · simp only [hrs.options]
  · refine (determined_ofResult _).bind fun text => ?_
    dsimp only
    split
    · split <;> exact (determined_pure _).bind fun _ => determined_give_if _ _
    · exact (determined_pure _).bind fun _ => determined_give_if _ _

/-- The dialects of files are all that the rule about dialects looks at. -/
theorem checkDialect_inputOnly : checkDialect.InputOnly :=
  forEachFile_inputOnly ⟨fun _ _ _ _ => rfl, fun _ _ _ => determined_give_if _ _⟩

/-- The demonstration rules look at files and options only. -/
theorem rules_inputOnly : ∀ rule ∈ spec.rules, rule.handler.InputOnly :=
  forall_rules checkFieldName_inputOnly checkTimestamp_inputOnly checkDialect_inputOnly

/-- The rule about timestamps leaves the context alone, also when the option is not text. -/
theorem checkTimestamp_calm : checkTimestamp.Calm := by
  refine forEachField_calm fun id r f => ?_
  refine (calm_ofResult _).bind fun text => ?_
  dsimp only
  split
  · split <;> exact (calm_pure _).bind fun _ => calm_give_if _ _
  · exact (calm_pure _).bind fun _ => calm_give_if _ _

/-- The demonstration rules leave the context alone. -/
theorem rules_calm : ∀ rule ∈ spec.rules, rule.handler.Calm :=
  forall_rules (forEachField_calm fun _ _ _ => calm_give_if _ _) checkTimestamp_calm
    (forEachFile_calm fun _ _ _ => calm_give_if _ _)

/-- A provider of the demonstration rules that runs them side by side. -/
def provider : Provider := ⟨spec, spec_isValid, .sideBySide [0, 1, 0, 2]⟩

/-- The part of the demonstration spec that is about names. -/
def nameSpec : Spec where
  rules := [fieldNameRule, timestampRule]
  categories := [styleCategory]

/-- The part of the demonstration spec that is about files. -/
def fileSpec : Spec where
  rules := [dialectRule]
  categories := [fileCategory]

/-- A provider of the rules about names. -/
def nameProvider : Provider where
  spec := nameSpec
  valid := isValid_of_sublist (List.cons_ne_nil _ _) (.cons_cons _ (.cons_cons _ (.cons _ .slnil)))
    (.cons_cons _ (.cons _ .slnil)) (by decide +kernel) (by decide +kernel)

/-- A provider of the rules about files. -/
def fileProvider : Provider where
  spec := fileSpec
  valid := isValid_of_sublist (List.cons_ne_nil _ _) (.cons _ (.cons _ (.cons_cons _ .slnil)))
    (.cons _ (.cons_cons _ .slnil)) (by decide +kernel) (by decide +kernel)

/-- Without options there are none out of order. -/
theorem noOptions_sorted : ([] : List (String × Bytes)).Pairwise fun a b => a.1 < b.1 := .nil

/-- Without options there are none that are not well-formed. -/
theorem noOptions_valid : ∀ e ∈ ([] : List (String × Bytes)),
    Identifier.isWellFormed .optionKey e.1 ∧ e.2 ≠ [] := fun _ h => absurd h List.not_mem_nil

/-- The request about one file that declares a dialect, for one of the rules. -/
def request : Request where
  files := [{ descriptor := { name := "a.proto", dialect := some "proto3" } }]
  againstFiles := []
  options := ⟨[], noOptions_sorted, noOptions_valid⟩
  ruleIds := [dialectRule.id]
  files_ne_nil := List.cons_ne_nil _ _
  names_distinct := ⟨by decide, by decide⟩
  against_distinct := ⟨by decide, by decide⟩
  ids_sorted := by decide
  ids_valid := by decide +kernel

end SchemaCheck.Demo
