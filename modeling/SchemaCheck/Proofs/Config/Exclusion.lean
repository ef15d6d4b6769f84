import SchemaCheck.Proofs.Client.Mirror
import SchemaCheck.Proofs.Config.Expansion

/-!
# Entries that are used and excluded

To exclude an entry takes away the rules that it covers, its own or those of a category. To use it
may mean others: what is deprecated has given way to its replacements before anything is taken away.
So a configuration that excludes each entry that it uses selects replacements only, of which it has
taken away what it covers (`Config.exclusion_spares_replacements`), and nothing at all when no entry
is deprecated. It can select something (`Renaming.selectRules_used_and_excluded`).
-/

namespace SchemaCheck

namespace Spec

/-- An entry covers a rule: as its identifier, or as that of one of its categories. -/
inductive Covers (s : Spec) : String → String → Prop where
  | rule {e : RuleEntry} : e ∈ s.ruleEntries → Covers s e.id e.id
  | category {e : RuleEntry} {category : String} : e ∈ s.ruleEntries → category ∈ e.categoryIds →
      Covers s category e.id

/-- An entry gives way to a rule: this is a replacement of the deprecated rule that the entry names,
or a rule, itself not deprecated, of a replacement of the deprecated category. -/
inductive GivesWay (s : Spec) : String → String → Prop where
  | rule {e : RuleEntry} {id : String} : e ∈ s.ruleEntries → e.deprecated = true →
      id ∈ e.replacementIds → GivesWay s e.id id
  | category {c : Category} {replacement : String} {e : RuleEntry} : c ∈ s.categories →
      c.deprecated = true → replacement ∈ c.replacementIds → e ∈ s.ruleEntries →
      replacement ∈ e.categoryIds → e.deprecated = false → GivesWay s c.id e.id

variable {s : Spec} {entry id : String}

/-- Only what is deprecated gives way. -/
theorem GivesWay.declares (h : s.GivesWay entry id) :
    s.DeclaresRule entry true ∨ s.DeclaresCategory entry true := by
  cases h with
  | rule he hdeprecated => exact .inl ⟨_, he, rfl, hdeprecated⟩
  | category hc hdeprecated => exact .inr ⟨_, hc, rfl, hdeprecated⟩

/-! ## Entries among what is listed -/

/-- The listed categories are those that are declared. -/
theorem mem_listedCategories {c : Category} : c ∈ s.listedCategories ↔ c ∈ s.categories :=
  (sortByKey_perm Category.id s.categories).mem_iff

/-- Each declared rule is listed with its categories. -/
theorem among_mem_listedRules {e : RuleEntry} (he : e ∈ s.ruleEntries) :
    Rule.among s.categories e ∈ s.listedRules :=
  Config.mem_listedRules.2 ⟨e, he, rfl⟩

/-- The listed rules have the identifiers that are declared. -/
theorem mem_map_id_listedRules : entry ∈ s.listedRules.map Rule.id ↔ entry ∈ s.ruleIds :=
  s.map_id_listedRules_perm.mem_iff

/-- The entries that name something are the identifiers of rules and categories. -/
theorem names_listed_iff :
    Config.Names s.listedRules s.listedCategories entry ↔
      entry ∈ s.ruleIds ∨ entry ∈ s.categoryIds :=
  or_congr mem_map_id_listedRules s.map_id_listedCategories_perm.mem_iff

variable (hs : s.IsValid)

include hs

/-- A listed rule is in the categories that its entry names. -/
theorem categoryIds_among {e : RuleEntry} (he : e ∈ s.ruleEntries) :
    (Rule.among s.categories e).categoryIds = e.categoryIds := by
  have hmirrored := (hs.mirroredBy_among he).categories
  have hids : List.Forall₂ (· = ·) (List.map Category.id (Rule.among s.categories e).categories)
      e.categoryIds := by
    rw [List.forall₂_map_left_iff]
    exact hmirrored.flip.imp fun _ _ h => h.2
  exact List.forall₂_eq_eq_eq ▸ hids

/-- No listed rule is called like a category. -/
theorem not_mem_map_id_listedRules (h : entry ∈ s.categoryIds) :
    entry ∉ s.listedRules.map Rule.id := fun hrule =>
  (isValid_iff_registered.1 hs).ids_disjoint entry (mem_map_id_listedRules.1 hrule) h

/-- What an entry of `except` stands for among what is listed is what it covers. -/
theorem excludes_listed_iff :
    Config.Excludes s.listedRules s.listedCategories entry id ↔ s.Covers entry id := by
  constructor
  · intro h
    cases h with
    | rule hr =>
      obtain ⟨e, he, rfl⟩ := Config.mem_listedRules.1 hr
      exact .rule he
    | category _ _ hr hin =>
      obtain ⟨e, he, rfl⟩ := Config.mem_listedRules.1 hr
      exact .category he (categoryIds_among hs he ▸ hin)
  · intro h
    cases h with
    | rule he => exact .rule (among_mem_listedRules he)
    | category he hin =>
      have hknown : entry ∈ s.categoryIds := hs.categoryIds_known he _ hin
      obtain ⟨c, hc, rfl⟩ := List.mem_map.1 hknown
      exact .category (mem_listedCategories.2 hc) (not_mem_map_id_listedRules hs hknown)
        (among_mem_listedRules he) ((categoryIds_among hs he).symm ▸ hin)

/-- An entry of `use` stands for rules that it covers or gives way to. -/
theorem covers_or_givesWay (h : Config.Uses s.listedRules s.listedCategories entry id) :
    s.Covers entry id ∨ s.GivesWay entry id := by
  cases h with
  | rule hr =>
    obtain ⟨e, he, rfl⟩ := Config.mem_listedRules.1 hr
    exact .inl (.rule he)
  | replacedRule hr hreplaced hid =>
    obtain ⟨e, he, rfl⟩ := Config.mem_listedRules.1 hr
    exact .inr (.rule he hreplaced.1 hid)
  | category _ _ _ hr hin =>
    obtain ⟨e, he, rfl⟩ := Config.mem_listedRules.1 hr
    exact .inl (.category he (categoryIds_among hs he ▸ hin))
  | replacedCategory hc _ hreplaced hreplacement hr hin hcurrent =>
    obtain ⟨e, he, rfl⟩ := Config.mem_listedRules.1 hr
    exact .inr (.category (mem_listedCategories.1 hc) hreplaced.1 hreplacement he
      (categoryIds_among hs he ▸ hin) hcurrent)

/-- An entry of `use` stands for all rules that it gives way to. -/
theorem uses_of_givesWay (h : s.GivesWay entry id) :
    Config.Uses s.listedRules s.listedCategories entry id := by
  cases h with
  | rule he hdeprecated hid =>
    exact .replacedRule (among_mem_listedRules he) ⟨hdeprecated, List.ne_nil_of_mem hid⟩ hid
  | category hc hdeprecated hreplacement he hin hcurrent =>
    exact .replacedCategory (mem_listedCategories.2 hc)
      (not_mem_map_id_listedRules hs (List.mem_map_of_mem hc))
      ⟨hdeprecated, List.ne_nil_of_mem hreplacement⟩ hreplacement (among_mem_listedRules he)
      ((categoryIds_among hs he).symm ▸ hin) hcurrent

end Spec

namespace Config

variable {s : Spec} {config : Config} {id : String}

/-- When each used entry is excluded too, only replacements are used and not excluded. -/
theorem usesRule_and_not_excludesRule_iff (hs : s.IsValid) (hne : config.use ≠ [])
    (hboth : config.use ⊆ config.except) :
    config.UsesRule s.listedRules s.listedCategories id ∧
        ¬ config.ExcludesRule s.listedRules s.listedCategories id ↔
      (∃ entry ∈ config.use, s.GivesWay entry id) ∧
        ∀ entry ∈ config.except, ¬ s.Covers entry id := by
  have hexcluded : config.ExcludesRule s.listedRules s.listedCategories id ↔
      ∃ entry ∈ config.except, s.Covers entry id :=
    exists_congr fun entry => and_congr_right fun _ => Spec.excludes_listed_iff hs
  have hnone : (¬ ∃ entry ∈ config.except, s.Covers entry id) ↔
      ∀ entry ∈ config.except, ¬ s.Covers entry id := by
    simp only [not_exists, not_and]
  rw [hexcluded, hnone, UsesRule, if_neg hne]
  refine and_congr_left fun hkept => ⟨?_, ?_⟩
  · rintro ⟨entry, hentry, huses⟩
    -- what the entry covers is excluded with it
    exact ⟨entry, hentry,
      (Spec.covers_or_givesWay hs huses).resolve_left (hkept entry (hboth hentry))⟩
  · rintro ⟨entry, hentry, hgives⟩
    exact ⟨entry, hentry, Spec.uses_of_givesWay hs hgives⟩

/-- To exclude each entry that is used leaves replacements only. For every valid spec, with the
rules and categories that its clients list, and every configuration whose used entries are excluded
too, of which there are some: an entry that names nothing is reported; or the rules selected are
those that a used entry gives way to and no excluded entry covers. There are none when no used entry
is deprecated, and then no request is made. -/
theorem exclusion_spares_replacements (p : Provider) {config : Config} (hne : config.use ≠ [])
    (hboth : config.use ⊆ config.except) :
    let rules := p.spec.listedRules
    let categories := p.spec.listedCategories
    (∀ {τ : Type} {c : Client τ}, c.IsLocal p →
      c.listRules.Gives (ClientState.Ready p.spec) rules ∧
      c.listCategories.Gives (ClientState.Ready p.spec) categories) ∧
    ((∃ entry ∈ config.use ++ config.except,
        entry ∉ p.spec.ruleIds ∧ entry ∉ p.spec.categoryIds ∧
        config.selectRules rules categories
          = .error (.config ("Unknown rule or category ID '" ++ entry ++ "'"))) ∨
      ∃ ids, config.selectRules rules categories = .ok ids ∧ ids.Pairwise (· < ·) ∧
        ∀ id, id ∈ ids ↔ (∃ entry ∈ config.use, p.spec.GivesWay entry id) ∧
          ∀ entry ∈ config.except, ¬ p.spec.Covers entry id) ∧
    ((∀ entry ∈ config.use,
        ¬ p.spec.DeclaresRule entry true ∧ ¬ p.spec.DeclaresCategory entry true) →
      ∀ ids, config.selectRules rules categories = .ok ids → ids = [] ∧
        ∀ files againstFiles, config.request files againstFiles rules categories
          = .error (.config "Configuration selects no rules")) := by
  intro rules categories
  have hs : p.spec.Registered := Spec.isValid_iff_registered.1 p.valid
  have hrules : (rules.map Rule.id).Nodup := nodup_listedRules hs
  have hcategories : (categories.map Category.id).Nodup :=
    p.spec.map_id_listedCategories_perm.nodup_iff.2 hs.categoryIds_nodup
  refine ⟨fun hc => ⟨Client.listRules_gives hc, Client.listCategories_gives hc⟩, ?_,
    fun hcurrent ids hids => ?_⟩
  · cases hselect : config.selectRules rules categories with
    | error e =>
      obtain ⟨entry, hfirst, rfl⟩ := (selectRules_eq_error_iff hrules hcategories).1 hselect
      obtain ⟨hmem, hnot⟩ := hfirst.mem_and_not_names
      obtain ⟨hrule, hcategory⟩ := not_or.1 (mt Spec.names_listed_iff.2 hnot)
      exact .inl ⟨entry, hmem, hrule, hcategory, rfl⟩
    | ok ids =>
      obtain ⟨-, hsorted, hmem⟩ := (selectRules_eq_ok_iff_named hrules hcategories).1 hselect
      exact .inr ⟨ids, rfl, hsorted, fun id =>
        (hmem id).trans (usesRule_and_not_excludesRule_iff p.valid hne hboth)⟩
  · obtain ⟨-, -, hmem⟩ := (selectRules_eq_ok_iff_named hrules hcategories).1 hids
    obtain rfl : ids = [] := by
      refine List.eq_nil_iff_forall_not_mem.2 fun id hid => ?_
      obtain ⟨⟨entry, hentry, hgives⟩, -⟩ :=
        (usesRule_and_not_excludesRule_iff p.valid hne hboth).1 ((hmem id).1 hid)
      obtain ⟨hrule, hcategory⟩ := hcurrent entry hentry
      exact hgives.declares.elim hrule hcategory
    refine ⟨rfl, fun files againstFiles => ?_⟩
    rw [request, hids]
    rfl

end Config

/-! ## A rule that was renamed -/

namespace Renaming

/-- A rule that finds nothing, deprecated when it is replaced. -/
def rule (id : String) (replacementIds : List String) : RuleSpec where
  id := id
  purpose := "Finds nothing."
  type := .lint
  deprecated := !replacementIds.isEmpty
  replacementIds := replacementIds
  handler _ _ := pure ()

/-- A rule under its new and its old name. -/
def spec : Spec := { rules := [rule "NEW_NAME" [], rule "OLD_NAME" ["NEW_NAME"]] }

/-- The two names make a valid spec: the old one is replaced by a rule that is there. -/
theorem isValid_spec : spec.IsValid := by
  have hformed : ∀ id ∈ spec.ruleIds, Identifier.isWellFormed .rule id := by decide +kernel
  have hnodup : spec.ruleIds.Nodup := by decide
  have hpurpose : "Finds nothing." ≠ "" := by decide
  have hdeclared : spec.DeclaresRule "NEW_NAME" false := ⟨_, List.mem_cons_self, rfl, rfl⟩
  refine Spec.isValid_iff_registered.2 ⟨List.cons_ne_nil _ _,
    fun id hid => Identifier.isWellFormed_iff.1 (hformed id hid), nofun, hnodup, .nil,
    fun _ _ => List.not_mem_nil, ?_, nofun, nofun⟩
  refine List.forall_mem_cons.2 ⟨?_, List.forall_mem_singleton.2 ?_⟩
  · exact ⟨hpurpose, .nil, nofun, fun h => Bool.false_ne_true h.1, fun _ => rfl, nofun⟩
  · exact ⟨hpurpose, .nil, nofun, fun h => Bool.false_ne_true h.2, nofun,
      List.forall_mem_singleton.2 hdeclared⟩

/-- A provider of the rule. -/
def provider : Provider := ⟨spec, isValid_spec, .inOrder⟩

/-- The configuration that uses the old name, and excludes it. -/
def config : Config := { use := ["OLD_NAME"], except := ["OLD_NAME"] }

/-- The new name is selected, since the old one stands for it in `use` and for nothing in `except`.
-/
theorem selectRules_eq :
    config.selectRules spec.listedRules spec.listedCategories = .ok ["NEW_NAME"] := by
  have hrules : spec.listedRules = spec.ruleEntries.map (Rule.among spec.categories) :=
    sortByKey_of_pairwise (by decide)
  have hcategories : spec.listedCategories = [] := sortByKey_of_pairwise .nil
  have hused : Text.sortedUnique ["NEW_NAME"] = ["NEW_NAME"] :=
    Text.sortedUnique_of_pairwise (List.pairwise_singleton _ _)
  rw [hrules, hcategories]
  refine Config.selectRules_eq_ok_iff.2 ⟨["NEW_NAME"], ["OLD_NAME"], rfl, rfl, ?_⟩
  rw [hused]
  decide

/-- `exclusion_spares_replacements` for the old name: what is selected is the new one. -/
theorem exclusion_spares_replacements_old :
    config.use ≠ [] ∧ config.use ⊆ config.except ∧
    config.selectRules spec.listedRules spec.listedCategories = .ok ["NEW_NAME"] ∧
    ∀ id, id = "NEW_NAME" ↔ (∃ entry ∈ config.use, spec.GivesWay entry id) ∧
      ∀ entry ∈ config.except, ¬ spec.Covers entry id := by
  have hne : config.use ≠ [] := List.cons_ne_nil _ _
  have hboth : config.use ⊆ config.except := List.Subset.refl _
  refine ⟨hne, hboth, selectRules_eq, fun id => ?_⟩
  obtain ⟨-, hselected, -⟩ := Config.exclusion_spares_replacements provider hne hboth
  rcases hselected with ⟨_, _, _, _, herror⟩ | ⟨ids, hids, -, hmem⟩
  · cases selectRules_eq.symm.trans herror
  · obtain rfl : ["NEW_NAME"] = ids := Except.ok.inj (selectRules_eq.symm.trans hids)
    exact List.mem_singleton.symm.trans (hmem id)

/-- To exclude all that is used need not leave nothing: among what a client of the provider lists, a
rule is selected by a configuration that uses and excludes its old name. -/
theorem selectRules_used_and_excluded :
    let c : Client Unit := Client.ofProvider provider
    let start : Session (ClientState Unit) := ⟨{}, { link := () }⟩
    config.use ≠ [] ∧ (∀ entry ∈ config.use, entry ∈ config.except) ∧
    ∃ rules categories, (c.listRules.runIn start).1 = .ok rules ∧
      (c.listCategories.runIn start).1 = .ok categories ∧
      config.selectRules rules categories = .ok ["NEW_NAME"] := by
  intro c start
  have hc : c.IsLocal provider := ⟨rfl, by decide, by decide⟩
  have hready : ClientState.Ready spec start := ⟨by decide, ListingCache.fits_empty _⟩
  obtain ⟨_, hrules, -⟩ := Client.listRules_gives hc start hready
  obtain ⟨_, hcategories, -⟩ := Client.listCategories_gives hc start hready
  exact ⟨List.cons_ne_nil _ _, fun _ h => h, _, _, congrArg Prod.fst hrules,
    congrArg Prod.fst hcategories, selectRules_eq⟩

end Renaming

end SchemaCheck
