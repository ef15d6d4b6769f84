import Mathlib.Data.List.Sort
import SchemaCheck.Proofs.Config.Selection

/-!
# Selections as sets

What the entries of a configuration stand for, said of the rules and categories that are listed and
not of the search through them: `Config.Uses` for an entry of `use`, `Config.Excludes` for one of
`except`. The two differ, since only what is used gives way to its replacements. A configuration
selects what is used and not excluded, in ascending order, and it fails just when an entry names
nothing, with the first that does (`Config.selectRules_is_difference`). So a selection hangs on what
the entries are, not on their order or number.
-/

namespace SchemaCheck

/-- Others take the place of a rule that is deprecated, if there are any. -/
def Rule.IsReplaced (r : Rule) : Prop := r.deprecated = true ∧ r.replacementIds ≠ []

/-- Others take the place of a category that is deprecated, if there are any. -/
def Category.IsReplaced (c : Category) : Prop := c.deprecated = true ∧ c.replacementIds ≠ []

namespace Config

/-! ## What entries stand for -/

/-- An entry names a rule or a category. -/
def Names (rules : List Rule) (categories : List Category) (entry : String) : Prop :=
  entry ∈ rules.map Rule.id ∨ entry ∈ categories.map Category.id

/-- The rules that an entry of `use` stands for. A rule stands for itself, or for its replacements
when it has some. A category, if no rule is called the same, stands for its rules that are not
deprecated, or for those of its replacements when it has some. -/
inductive Uses (rules : List Rule) (categories : List Category) : String → String → Prop where
  | rule {r : Rule} : r ∈ rules → ¬ r.IsReplaced → Uses rules categories r.id r.id
  | replacedRule {r : Rule} {id : String} : r ∈ rules → r.IsReplaced → id ∈ r.replacementIds →
      Uses rules categories r.id id
  | category {c : Category} {r : Rule} : c ∈ categories → c.id ∉ rules.map Rule.id →
      ¬ c.IsReplaced → r ∈ rules → c.id ∈ r.categoryIds → r.deprecated = false →
      Uses rules categories c.id r.id
  | replacedCategory {c : Category} {replacement : String} {r : Rule} : c ∈ categories →
      c.id ∉ rules.map Rule.id → c.IsReplaced → replacement ∈ c.replacementIds → r ∈ rules →
      replacement ∈ r.categoryIds → r.deprecated = false → Uses rules categories c.id r.id

/-- The rules that an entry of `except` stands for: a rule for itself; and a category, if no rule is
called the same, for all of its rules. -/
inductive Excludes (rules : List Rule) (categories : List Category) : String → String → Prop where
  | rule {r : Rule} : r ∈ rules → Excludes rules categories r.id r.id
  | category {c : Category} {r : Rule} : c ∈ categories → c.id ∉ rules.map Rule.id → r ∈ rules →
      c.id ∈ r.categoryIds → Excludes rules categories c.id r.id

/-- The rules that a configuration uses: the default ones, or those that its entries stand for. -/
def UsesRule (c : Config) (rules : List Rule) (categories : List Category) (id : String) : Prop :=
  if c.use = [] then ∃ r ∈ rules, r.isDefault = true ∧ r.id = id
  else ∃ entry ∈ c.use, Uses rules categories entry id

/-- The rules that a configuration excludes. -/
def ExcludesRule (c : Config) (rules : List Rule) (categories : List Category) (id : String) :
    Prop :=
  ∃ entry ∈ c.except, Excludes rules categories entry id

/-- The first entry that names nothing, where the entries of `use` come before those of `except`. -/
inductive FirstUnknown (c : Config) (rules : List Rule) (categories : List Category) :
    String → Prop where
  | use {before after : List String} {entry : String} : c.use = before ++ entry :: after →
      (∀ e ∈ before, Names rules categories e) → ¬ Names rules categories entry →
      FirstUnknown c rules categories entry
  | except {before after : List String} {entry : String} :
      (∀ e ∈ c.use, Names rules categories e) → c.except = before ++ entry :: after →
      (∀ e ∈ before, Names rules categories e) → ¬ Names rules categories entry →
      FirstUnknown c rules categories entry

/-- Two configurations have the same entries, perhaps in another order or more often. -/
structure SameEntries (c d : Config) : Prop where
  use : ∀ entry, entry ∈ c.use ↔ entry ∈ d.use
  except : ∀ entry, entry ∈ c.except ↔ entry ∈ d.except

/-! ## Reading one entry -/

/-- A way to expand entries reads them as they are meant: an entry that names something is expanded
to what it stands for, and one that does not is reported. -/
structure Reads (expand : String → Result (List String)) (names : String → Prop)
    (stands : String → String → Prop) : Prop where
  named : ∀ {entry}, names entry →
    ∃ ids, expand entry = .ok ids ∧ ∀ id, id ∈ ids ↔ stands entry id
  unnamed : ∀ {entry}, ¬ names entry → expand entry = .error (unknownId entry)

section

variable {rules : List Rule} {categories : List Category} {id : String}

/-- The members of a category are the rules that name it, but for deprecated ones if these are not
wanted. -/
theorem mem_membersOf {category : String} {withDeprecated : Bool} :
    id ∈ membersOf rules category withDeprecated ↔ ∃ r ∈ rules, category ∈ r.categoryIds ∧
      (withDeprecated = true ∨ r.deprecated = false) ∧ r.id = id := by
  simp [membersOf, and_assoc]

/-- What an entry of `use` that names a rule stands for. -/
theorem uses_rule_iff (hrules : (rules.map Rule.id).Nodup) {r : Rule} (hr : r ∈ rules) :
    Uses rules categories r.id id ↔
      (r.IsReplaced ∧ id ∈ r.replacementIds) ∨ (¬ r.IsReplaced ∧ id = r.id) := by
  have hmem : r.id ∈ rules.map Rule.id := List.mem_map_of_mem hr
  constructor
  · intro h
    generalize hentry : r.id = entry at h
    cases h with
    | rule hr' hkept =>
      obtain rfl := List.inj_on_of_nodup_map hrules hr hr' hentry
      exact .inr ⟨hkept, rfl⟩
    | replacedRule hr' hreplaced hid =>
      obtain rfl := List.inj_on_of_nodup_map hrules hr hr' hentry
      exact .inl ⟨hreplaced, hid⟩
    | category _ hnot => exact absurd (hentry ▸ hmem) hnot
    | replacedCategory _ hnot => exact absurd (hentry ▸ hmem) hnot
  · rintro (⟨hreplaced, hid⟩ | ⟨hkept, rfl⟩)
    · exact .replacedRule hr hreplaced hid
    · exact .rule hr hkept

/-- What an entry of `use` that names a category stands for. -/
theorem uses_category_iff (hcategories : (categories.map Category.id).Nodup) {c : Category}
    (hc : c ∈ categories) (hnot : c.id ∉ rules.map Rule.id) :
    Uses rules categories c.id id ↔
      (c.IsReplaced ∧ ∃ replacement ∈ c.replacementIds, ∃ r ∈ rules,
        replacement ∈ r.categoryIds ∧ r.deprecated = false ∧ r.id = id) ∨
      (¬ c.IsReplaced ∧ ∃ r ∈ rules, c.id ∈ r.categoryIds ∧ r.deprecated = false ∧ r.id = id) := by
  constructor
  · intro h
    generalize hentry : c.id = entry at h hnot
    cases h with
    | rule hr => exact absurd (List.mem_map_of_mem hr) hnot
    | replacedRule hr => exact absurd (List.mem_map_of_mem hr) hnot
    | @category d r hd _ hkept hr hin hcurrent =>
      obtain rfl := List.inj_on_of_nodup_map hcategories hc hd hentry
      exact .inr ⟨hkept, r, hr, hin, hcurrent, rfl⟩
    | @replacedCategory d replacement r hd _ hreplaced hreplacement hr hin hcurrent =>
      obtain rfl := List.inj_on_of_nodup_map hcategories hc hd hentry
      exact .inl ⟨hreplaced, replacement, hreplacement, r, hr, hin, hcurrent, rfl⟩
  · rintro (⟨hreplaced, replacement, hreplacement, r, hr, hin, hcurrent, rfl⟩ |
      ⟨hkept, r, hr, hin, hcurrent, rfl⟩)
    · exact .replacedCategory hc hnot hreplaced hreplacement hr hin hcurrent
    · exact .category hc hnot hkept hr hin hcurrent

/-- What an entry of `except` that names a rule stands for. -/
theorem excludes_rule_iff {r : Rule} (hr : r ∈ rules) :
    Excludes rules categories r.id id ↔ id = r.id := by
  constructor
  · intro h
    generalize hentry : r.id = entry at h
    cases h with
    | rule => rfl
    | category _ hnot => exact absurd (hentry ▸ List.mem_map_of_mem hr) hnot
  · rintro rfl
    exact .rule hr

/-- What an entry of `except` that names a category stands for. -/
theorem excludes_category_iff {c : Category} (hc : c ∈ categories)
    (hnot : c.id ∉ rules.map Rule.id) :
    Excludes rules categories c.id id ↔ ∃ r ∈ rules, c.id ∈ r.categoryIds ∧ r.id = id := by
  constructor
  · intro h
    generalize c.id = entry at h hnot
    cases h with
    | rule hr => exact absurd (List.mem_map_of_mem hr) hnot
    | category _ _ hr hin => exact ⟨_, hr, hin, rfl⟩
  · rintro ⟨r, hr, hin, rfl⟩
    exact .category hc hnot hr hin

/-- Entries of `use` are expanded as they are meant. -/
theorem reads_expandUse (hrules : (rules.map Rule.id).Nodup)
    (hcategories : (categories.map Category.id).Nodup) :
    Reads (expandUse rules categories) (Names rules categories) (Uses rules categories) where
  named {entry} h := by
    unfold expandUse
    by_cases hrule : entry ∈ rules.map Rule.id
    · obtain ⟨r, hr, rfl⟩ := List.mem_map.1 hrule
      rw [(find?_key_eq_some_iff hrules).2 ⟨hr, rfl⟩]
      refine ⟨_, rfl, fun id => ?_⟩
      rw [uses_rule_iff hrules hr]
      split
      · next hreplaced =>
        have hreplaced : r.IsReplaced := by simpa [Rule.IsReplaced] using hreplaced
        simp [hreplaced]
      · next hkept =>
        have hkept : ¬ r.IsReplaced := by simpa [Rule.IsReplaced] using hkept
        simp [hkept]
    · obtain ⟨c, hc, rfl⟩ := List.mem_map.1 (h.resolve_left hrule)
      rw [find?_key_eq_none hrule, (find?_key_eq_some_iff hcategories).2 ⟨hc, rfl⟩]
      refine ⟨_, rfl, fun id => ?_⟩
      rw [uses_category_iff hcategories hc hrule]
      split
      · next hreplaced =>
        have hreplaced : c.IsReplaced := by simpa [Category.IsReplaced] using hreplaced
        simp [hreplaced, mem_membersOf]
      · next hkept =>
        have hkept : ¬ c.IsReplaced := by simpa [Category.IsReplaced] using hkept
        simp [hkept, mem_membersOf]
  unnamed h := by
    obtain ⟨hrule, hcategory⟩ := not_or.1 h
    rw [expandUse, find?_key_eq_none hrule, find?_key_eq_none hcategory]

/-- Entries of `except` are expanded as they are meant. -/
theorem reads_expandExcept (rules : List Rule) (categories : List Category) :
    Reads (expandExcept rules categories) (Names rules categories) (Excludes rules categories) := by
  have hrule : ∀ entry, (rules.any fun r => r.id == entry) = true ↔ entry ∈ rules.map Rule.id := by
    simp
  have hcategory : ∀ entry, (categories.any fun c => c.id == entry) = true ↔
      entry ∈ categories.map Category.id := by
    simp
  refine ⟨fun {entry} h => ?_, fun {entry} h => ?_⟩
  · unfold expandExcept
    by_cases hnamed : entry ∈ rules.map Rule.id
    · rw [if_pos ((hrule entry).2 hnamed)]
      obtain ⟨r, hr, rfl⟩ := List.mem_map.1 hnamed
      exact ⟨_, rfl, fun id => List.mem_singleton.trans (excludes_rule_iff hr).symm⟩
    · have hother := h.resolve_left hnamed
      rw [if_neg (mt (hrule entry).1 hnamed), if_pos ((hcategory entry).2 hother)]
      obtain ⟨c, hc, rfl⟩ := List.mem_map.1 hother
      refine ⟨_, rfl, fun id => ?_⟩
      rw [mem_membersOf, excludes_category_iff hc hnamed]
      simp
  · obtain ⟨hnot, hnot'⟩ := not_or.1 h
    rw [expandExcept, if_neg (mt (hrule entry).1 hnot), if_neg (mt (hcategory entry).1 hnot')]

end

/-! ## Reading several entries -/

section

variable {expand : String → Result (List String)} {names : String → Prop}
  {stands : String → String → Prop} (h : Reads expand names stands)

include h

/-- Entries that all name something stand together for what each of them stands for. -/
theorem Reads.expandAll_named {entries : List String} (hnames : ∀ entry ∈ entries, names entry) :
    ∃ ids, expandAll expand entries = .ok ids ∧
      ∀ id, id ∈ ids ↔ ∃ entry ∈ entries, stands entry id := by
  induction entries with
  | nil => exact ⟨[], rfl, by simp⟩
  | cons entry entries ih =>
    obtain ⟨hentry, hentries⟩ := List.forall_mem_cons.1 hnames
    obtain ⟨here, hhere, hmem⟩ := h.named hentry
    obtain ⟨rest, hrest, hmem'⟩ := ih hentries
    refine ⟨here ++ rest, ?_, fun id => ?_⟩
    · rw [expandAll, hhere, hrest]
      rfl
    · rw [List.mem_append, hmem, hmem']
      simp

/-- The first entry that names nothing is reported, whatever comes after it. -/
theorem Reads.expandAll_unnamed {entries before after : List String} {entry : String}
    (hsplit : entries = before ++ entry :: after) (hbefore : ∀ e ∈ before, names e)
    (hentry : ¬ names entry) : expandAll expand entries = .error (unknownId entry) := by
  subst hsplit
  induction before with
  | nil =>
    rw [List.nil_append, expandAll, h.unnamed hentry]
    rfl
  | cons e before ih =>
    obtain ⟨he, hrest⟩ := List.forall_mem_cons.1 hbefore
    obtain ⟨here, hhere, -⟩ := h.named he
    rw [List.cons_append, expandAll, hhere, ih hrest]
    rfl

end

/-! ## Selections -/

section

variable {rules : List Rule} {categories : List Category} {c d : Config}

/-- Either all entries of a configuration name something, or there is a first one that does not. -/
theorem named_or_firstUnknown (rules : List Rule) (categories : List Category) (c : Config) :
    (∀ entry ∈ c.use ++ c.except, Names rules categories entry) ∨
      ∃ entry, c.FirstUnknown rules categories entry := by
  rcases forall_or_exists_first (Names rules categories) c.use with
    huse | ⟨before, entry, after, hsplit, hbefore, hnot⟩
  · rcases forall_or_exists_first (Names rules categories) c.except with
      hexcept | ⟨before, entry, after, hsplit, hbefore, hnot⟩
    · exact .inl (List.forall_mem_append.2 ⟨huse, hexcept⟩)
    · exact .inr ⟨entry, .except huse hsplit hbefore hnot⟩
  · exact .inr ⟨entry, .use hsplit hbefore hnot⟩

/-- The first entry that names nothing is an entry that names nothing. -/
theorem FirstUnknown.mem_and_not_names {entry : String}
    (h : c.FirstUnknown rules categories entry) :
    entry ∈ c.use ++ c.except ∧ ¬ Names rules categories entry := by
  cases h with
  | use hsplit _ hnot =>
    refine ⟨List.mem_append_left _ ?_, hnot⟩
    rw [hsplit]
    exact List.mem_append_right _ List.mem_cons_self
  | except _ hsplit _ hnot =>
    refine ⟨List.mem_append_right _ ?_, hnot⟩
    rw [hsplit]
    exact List.mem_append_right _ List.mem_cons_self

variable (hrules : (rules.map Rule.id).Nodup) (hcategories : (categories.map Category.id).Nodup)

include hrules hcategories

/-- What is used is what the entries of `use` stand for, or the default rules without any. -/
theorem exists_used (hnames : ∀ entry ∈ c.use, Names rules categories entry) :
    ∃ used, (if c.use.isEmpty then .ok ((rules.filter (·.isDefault)).map (·.id))
        else expandAll (expandUse rules categories) c.use) = (.ok used : Result (List String)) ∧
      ∀ id, id ∈ used ↔ c.UsesRule rules categories id := by
  unfold UsesRule
  by_cases hempty : c.use = []
  · rw [if_pos (List.isEmpty_iff.2 hempty)]
    refine ⟨_, rfl, fun id => ?_⟩
    simp [hempty, and_assoc]
  · rw [if_neg (mt List.isEmpty_iff.1 hempty)]
    simp only [hempty, if_false]
    exact (reads_expandUse hrules hcategories).expandAll_named hnames

/-- When all entries name something, what is used and not excluded is selected. -/
theorem selectRules_of_named (hnames : ∀ entry ∈ c.use ++ c.except, Names rules categories entry) :
    ∃ ids, c.selectRules rules categories = .ok ids ∧ ids.Pairwise (· < ·) ∧
      ∀ id, id ∈ ids ↔ c.UsesRule rules categories id ∧ ¬ c.ExcludesRule rules categories id := by
  obtain ⟨huse, hexcept⟩ := List.forall_mem_append.1 hnames
  obtain ⟨used, hused, hmem⟩ := exists_used hrules hcategories huse
  obtain ⟨removed, hremoved, hmem'⟩ := (reads_expandExcept rules categories).expandAll_named hexcept
  have hselect := selectRules_eq_ok_iff.2 ⟨used, removed, hused, hremoved, rfl⟩
  refine ⟨_, hselect, sorted_of_selectRules hselect, fun id => ?_⟩
  rw [List.mem_filter, Text.mem_sortedUnique, hmem]
  simp [hmem', ExcludesRule]

/-- The first entry that names nothing is reported. -/
theorem selectRules_of_firstUnknown {entry : String} (h : c.FirstUnknown rules categories entry) :
    c.selectRules rules categories = .error (unknownId entry) := by
  rw [selectRules_eq_bind]
  cases h with
  | use hsplit hbefore hnot =>
    have hne : c.use ≠ [] := hsplit ▸ List.append_ne_nil_of_right_ne_nil _ (List.cons_ne_nil _ _)
    rw [if_neg (mt List.isEmpty_iff.1 hne),
      (reads_expandUse hrules hcategories).expandAll_unnamed hsplit hbefore hnot]
    rfl
  | except huse hsplit hbefore hnot =>
    obtain ⟨used, hused, -⟩ := exists_used hrules hcategories huse
    rw [hused, (reads_expandExcept rules categories).expandAll_unnamed hsplit hbefore hnot]
    rfl

/-- A selection fails just when some entry names nothing, and reports the first that does. -/
theorem selectRules_eq_error_iff {e : Fault} :
    c.selectRules rules categories = .error e ↔
      ∃ entry, c.FirstUnknown rules categories entry ∧ e = unknownId entry := by
  constructor
  · intro h
    rcases named_or_firstUnknown rules categories c with hnames | ⟨entry, hfirst⟩
    · obtain ⟨ids, hids, -⟩ := selectRules_of_named hrules hcategories hnames
      rw [h] at hids
      cases hids
    · rw [selectRules_of_firstUnknown hrules hcategories hfirst] at h
      cases h
      exact ⟨entry, hfirst, rfl⟩
  · rintro ⟨entry, hfirst, rfl⟩
    exact selectRules_of_firstUnknown hrules hcategories hfirst

/-- A selection succeeds just when all entries name something, and has then, in ascending order,
what is used and not excluded. -/
theorem selectRules_eq_ok_iff_named {ids : List String} :
    c.selectRules rules categories = .ok ids ↔
      (∀ entry ∈ c.use ++ c.except, Names rules categories entry) ∧ ids.Pairwise (· < ·) ∧
      ∀ id, id ∈ ids ↔ c.UsesRule rules categories id ∧ ¬ c.ExcludesRule rules categories id := by
  constructor
  · intro h
    have hnames : ∀ entry ∈ c.use ++ c.except, Names rules categories entry := by
      refine (named_or_firstUnknown rules categories c).resolve_right ?_
      rintro ⟨entry, hfirst⟩
      rw [selectRules_of_firstUnknown hrules hcategories hfirst] at h
      cases h
    obtain ⟨ids', hids', hsorted, hmem⟩ := selectRules_of_named hrules hcategories hnames
    cases h.symm.trans hids'
    exact ⟨hnames, hsorted, hmem⟩
  · rintro ⟨hnames, hsorted, hmem⟩
    obtain ⟨ids', hids', hsorted', hmem'⟩ := selectRules_of_named hrules hcategories hnames
    have hsame : ids = ids' :=
      hsorted.eq_of_mem_iff hsorted' fun id => (hmem id).trans (hmem' id).symm
    rw [hids', hsame]

/-- The same entries make the same selection. -/
theorem selectRules_congr (h : c.SameEntries d) {ids : List String} :
    c.selectRules rules categories = .ok ids ↔ d.selectRules rules categories = .ok ids := by
  have hempty : c.use = [] ↔ d.use = [] := by
    simp only [List.eq_nil_iff_forall_not_mem, h.use]
  rw [selectRules_eq_ok_iff_named hrules hcategories,
    selectRules_eq_ok_iff_named hrules hcategories]
  simp only [List.mem_append, UsesRule, ExcludesRule, h.use, h.except, hempty]

/-- More entries of `except` select no more. -/
theorem selectRules_antitone (huse : d.use = c.use) (hexcept : c.except ⊆ d.except)
    {ids : List String} (h : d.selectRules rules categories = .ok ids) :
    ∃ all, c.selectRules rules categories = .ok all ∧ ids.Sublist all := by
  obtain ⟨hnames, hsorted, hmem⟩ := (selectRules_eq_ok_iff_named hrules hcategories).1 h
  have hsub : c.use ++ c.except ⊆ d.use ++ d.except := by
    rw [huse]
    exact List.append_subset.2
      ⟨List.subset_append_left _ _, List.Subset.trans hexcept (List.subset_append_right _ _)⟩
  obtain ⟨all, hall, hsorted', hmem'⟩ :=
    selectRules_of_named hrules hcategories fun entry hentry => hnames entry (hsub hentry)
  have hmore : ids ⊆ all := by
    intro id hid
    obtain ⟨hused, hkept⟩ := (hmem id).1 hid
    refine (hmem' id).2 ⟨?_, ?_⟩
    · unfold UsesRule at hused ⊢
      rwa [huse] at hused
    · rintro ⟨entry, hentry, hexcludes⟩
      exact hkept ⟨entry, hexcept hentry, hexcludes⟩
  have hnodup : ids.Nodup := hsorted.imp Std.ne_of_lt
  exact ⟨all, hall, List.sublist_of_subperm_of_pairwise (List.subperm_of_subset hnodup hmore)
    hsorted hsorted'⟩

end

/-- The rules that a configuration selects, as sets. A selection fails just when some entry names
neither a rule nor a category; it then reports the first such entry, where those of `use` come
first. Otherwise it has, in ascending order, just the rules that are used and not excluded. To
reorder or repeat entries changes nothing but which unknown entry is the first; and more entries of
`except` select no more. -/
theorem selectRules_is_difference {rules : List Rule} {categories : List Category}
    (hrules : (rules.map Rule.id).Nodup) (hcategories : (categories.map Category.id).Nodup)
    (c : Config) :
    (∀ e, c.selectRules rules categories = .error e ↔ ∃ entry,
      c.FirstUnknown rules categories entry ∧
        e = .config ("Unknown rule or category ID '" ++ entry ++ "'")) ∧
    ((∃ e, c.selectRules rules categories = .error e) ↔
      ∃ entry ∈ c.use ++ c.except, ¬ Names rules categories entry) ∧
    (∀ ids, c.selectRules rules categories = .ok ids ↔
      (∀ entry ∈ c.use ++ c.except, Names rules categories entry) ∧ ids.Pairwise (· < ·) ∧
        ∀ id, id ∈ ids ↔
          c.UsesRule rules categories id ∧ ¬ c.ExcludesRule rules categories id) ∧
    (∀ d, c.SameEntries d → d.selectRules rules categories = c.selectRules rules categories ∨
      ∃ entry entry', entry ≠ entry' ∧ c.FirstUnknown rules categories entry ∧
        d.FirstUnknown rules categories entry') ∧
    ∀ d : Config, d.use = c.use → c.except ⊆ d.except →
      ∀ ids, d.selectRules rules categories = .ok ids →
        ∃ all, c.selectRules rules categories = .ok all ∧ ids.Sublist all := by
  refine ⟨fun e => selectRules_eq_error_iff hrules hcategories, ⟨?_, ?_⟩,
    fun ids => selectRules_eq_ok_iff_named hrules hcategories, fun d hd => ?_,
    fun d huse hexcept ids h => selectRules_antitone hrules hcategories huse hexcept h⟩
  · rintro ⟨e, he⟩
    obtain ⟨entry, hfirst, -⟩ := (selectRules_eq_error_iff hrules hcategories).1 he
    exact ⟨entry, hfirst.mem_and_not_names⟩
  · rintro ⟨entry, hentry, hnot⟩
    rcases named_or_firstUnknown rules categories c with hnames | ⟨first, hfirst⟩
    · exact absurd (hnames entry hentry) hnot
    · exact ⟨_, selectRules_of_firstUnknown hrules hcategories hfirst⟩
  · cases hc : c.selectRules rules categories with
    | ok ids => exact .inl ((selectRules_congr hrules hcategories hd).1 hc)
    | error e =>
      cases hd' : d.selectRules rules categories with
      | ok ids =>
        rw [(selectRules_congr hrules hcategories hd).2 hd'] at hc
        cases hc
      | error f =>
        obtain ⟨entry, hfirst, rfl⟩ := (selectRules_eq_error_iff hrules hcategories).1 hc
        obtain ⟨entry', hfirst', rfl⟩ := (selectRules_eq_error_iff hrules hcategories).1 hd'
        by_cases hsame : entry = entry'
        · exact .inl (by rw [hsame])
        · exact .inr ⟨entry, entry', hsame, hfirst, hfirst'⟩

/-- Two categories, of which the first is deprecated and replaced by the second. -/
def styleCategories : List Category :=
  [{ id := "OLD_STYLE", purpose := "Former styles.", deprecated := true,
      replacementIds := ["STYLE"] },
    { id := "STYLE", purpose := "Styles." }]

/-- A rule of some of these categories, deprecated when it is replaced. -/
def styleRule (id : String) (categories : List Category) (replacementIds : List String) : Rule :=
  ⟨id, categories, replacementIds.isEmpty, "Checks a style.", .lint, !replacementIds.isEmpty,
    replacementIds⟩

/-- Three rules of these categories, of which the second is replaced by the third. -/
def styleRules : List Rule :=
  [styleRule "FIELD_NAME" styleCategories [], styleRule "OLD_NAME" styleCategories ["TYPE_NAME"],
    styleRule "TYPE_NAME" styleCategories []]

/-- A configuration that uses the deprecated category without the first rule. -/
def styleConfig : Config := { use := ["OLD_STYLE", "OLD_NAME"], except := ["FIELD_NAME"] }

/-- The rule that is left is the one that is used and not excluded. -/
theorem selectRules_is_difference_styles :
    (styleRules.map Rule.id).Nodup ∧ (styleCategories.map Category.id).Nodup ∧
    styleConfig.selectRules styleRules styleCategories = .ok ["TYPE_NAME"] ∧
    (∀ entry ∈ styleConfig.use ++ styleConfig.except, Names styleRules styleCategories entry) ∧
    ∀ id, id = "TYPE_NAME" ↔ styleConfig.UsesRule styleRules styleCategories id ∧
      ¬ styleConfig.ExcludesRule styleRules styleCategories id := by
  have hrules : (styleRules.map Rule.id).Nodup := by decide
  have hcategories : (styleCategories.map Category.id).Nodup := by decide
  have hused : Text.sortedUnique ["FIELD_NAME", "TYPE_NAME", "TYPE_NAME"]
      = ["FIELD_NAME", "TYPE_NAME"] :=
    (Text.pairwise_sortedUnique _).eq_of_mem_iff (by decide) fun id => by simp
  have hselect : styleConfig.selectRules styleRules styleCategories = .ok ["TYPE_NAME"] := by
    refine selectRules_eq_ok_iff.2
      ⟨["FIELD_NAME", "TYPE_NAME", "TYPE_NAME"], ["FIELD_NAME"], rfl, rfl, ?_⟩
    rw [hused]
    decide
  obtain ⟨-, -, hok, -⟩ := selectRules_is_difference hrules hcategories styleConfig
  obtain ⟨hnames, -, hmem⟩ := (hok _).1 hselect
  exact ⟨hrules, hcategories, hselect, hnames, fun id => List.mem_singleton.symm.trans (hmem id)⟩

end Config

end SchemaCheck
