import SchemaCheck.Config.Selection
import SchemaCheck.Proofs.Client.Listing
import SchemaCheck.Proofs.Request.Splitting
import SchemaCheck.Proofs.Spec.Registry

/-!
# What a configuration selects

Given the rules and categories that a valid spec lists, a configuration selects rules that the spec
offers (`Spec.Offers`): rules that it declares, of which the deprecated ones are selected by name
only, and only when nothing replaces them. Such a selection stands for itself
(`Config.selectRules_eq_of_offers`). The request that comes of a configuration names what was
selected, which is not nothing, and has the options as they were configured
(`Config.made_of_request`).
-/

namespace SchemaCheck

/-- Whether a spec has a rule to offer to those who ask for some entries: the rule is declared, and
if it is deprecated, then it is one of the entries and has no replacements. -/
def Spec.Offers (s : Spec) (entries : List String) (id : String) : Prop :=
  ∃ rule ∈ s.ruleEntries, rule.id = id ∧
    (rule.deprecated = true → id ∈ entries ∧ rule.replacementIds = [])

namespace Config

/-! ## Lists of entries -/

section

variable {expand : String → Result (List String)} {entries ids : List String}

/-- Entries together stand for what each of them stands for. -/
theorem mem_of_expandAll (h : expandAll expand entries = .ok ids) {id : String} (hid : id ∈ ids) :
    ∃ entry ∈ entries, ∃ here, expand entry = .ok here ∧ id ∈ here := by
  induction entries generalizing ids with
  | nil =>
    cases h
    cases hid
  | cons entry entries ih =>
    obtain ⟨here, hhere, hrest⟩ := exists_of_bind_eq_ok h
    obtain ⟨rest, hexpand, hout⟩ := exists_of_bind_eq_ok hrest
    cases hout
    rcases List.mem_append.1 hid with hid | hid
    · exact ⟨entry, List.mem_cons_self, here, hhere, hid⟩
    · obtain ⟨other, hother, found⟩ := ih hexpand hid
      exact ⟨other, List.mem_cons_of_mem _ hother, found⟩

/-- Entries that stand for themselves do so together. -/
theorem expandAll_of_single (h : ∀ entry ∈ entries, expand entry = .ok [entry]) :
    expandAll expand entries = .ok entries := by
  induction entries with
  | nil => rfl
  | cons entry entries ih =>
    rw [expandAll, h entry List.mem_cons_self,
      ih fun entry hentry => h entry (List.mem_cons_of_mem _ hentry)]
    rfl

end

/-! ## Rules on offer -/

section

variable {s : Spec} {entries : List String} {id : String}

/-- A listed rule is one that is declared, with its categories. -/
theorem mem_listedRules {rule : Rule} :
    rule ∈ s.listedRules ↔ ∃ e ∈ s.ruleEntries, Rule.among s.categories e = rule :=
  s.listedRules_perm.mem_iff.trans List.mem_map

/-- A rule that is not deprecated is on offer to everybody. -/
theorem offers_of_declaresRule (h : s.DeclaresRule id false) : s.Offers entries id := by
  obtain ⟨e, he, hid, hcurrent⟩ := h
  refine ⟨e, he, hid, fun hdeprecated => ?_⟩
  rw [hcurrent] at hdeprecated
  cases hdeprecated

/-- Of the rules of a category only those that are not deprecated are used. -/
theorem declaresRule_of_mem_membersOf {category : String}
    (h : id ∈ membersOf s.listedRules category false) : s.DeclaresRule id false := by
  obtain ⟨rule, hrule, rfl⟩ := List.mem_map.1 h
  obtain ⟨hlisted, htest⟩ := List.mem_filter.1 hrule
  obtain ⟨e, he, rfl⟩ := mem_listedRules.1 hlisted
  have hcurrent : (Rule.among s.categories e).deprecated = false := by
    simp only [Bool.false_or, Bool.and_eq_true, Bool.not_eq_true'] at htest
    exact htest.2
  exact ⟨e, he, rfl, hcurrent⟩

variable (hs : s.Registered)

include hs

/-- The default rules of a registry are not deprecated. -/
theorem declaresRule_of_isDefault (h : id ∈ (s.listedRules.filter (·.isDefault)).map Rule.id) :
    s.DeclaresRule id false := by
  obtain ⟨rule, hrule, rfl⟩ := List.mem_map.1 h
  obtain ⟨hlisted, hdefault⟩ := List.mem_filter.1 hrule
  obtain ⟨e, he, rfl⟩ := mem_listedRules.1 hlisted
  cases hcurrent : e.deprecated with
  | false => exact ⟨e, he, rfl, hcurrent⟩
  | true => exact absurd ⟨hcurrent, hdefault⟩ (hs.rules e he).default

/-- No two listed rules have one identifier. -/
theorem nodup_listedRules : (s.listedRules.map Rule.id).Nodup :=
  s.map_id_listedRules_perm.nodup_iff.2 hs.ruleIds_nodup

/-- An entry of `use` stands for rules on offer: replacements are declared and not deprecated, and
a rule stands for itself only when it is not to be replaced. -/
theorem offers_of_expandUse {entry : String} {ids : List String} (hentry : entry ∈ entries)
    (h : expandUse s.listedRules s.listedCategories entry = .ok ids) (hid : id ∈ ids) :
    s.Offers entries id := by
  unfold expandUse at h
  split at h
  · next rule hfind =>
    obtain ⟨hlisted, rfl⟩ := (find?_key_eq_some_iff (nodup_listedRules hs)).1 hfind
    obtain ⟨e, he, rfl⟩ := mem_listedRules.1 hlisted
    cases h
    split at hid
    · exact offers_of_declaresRule ((hs.rules e he).replacements.declared id hid)
    · next hkept =>
      obtain rfl := List.mem_singleton.1 hid
      refine ⟨e, he, rfl, fun hdeprecated => ⟨hentry, ?_⟩⟩
      have hnone : e.deprecated = true → e.replacementIds = [] := by
        simpa [Rule.among] using hkept
      exact hnone hdeprecated
  · split at h
    · cases h
      split at hid
      · obtain ⟨replacement, -, hid⟩ := List.mem_flatMap.1 hid
        exact offers_of_declaresRule (declaresRule_of_mem_membersOf hid)
      · exact offers_of_declaresRule (declaresRule_of_mem_membersOf hid)
    · cases h

/-- A rule on offer that is named stands for itself. -/
theorem expandUse_of_offers (h : s.Offers entries id) :
    expandUse s.listedRules s.listedCategories id = .ok [id] := by
  obtain ⟨e, he, rfl, hdeprecated⟩ := h
  have hfind : (s.listedRules.find? fun r => r.id == e.id) = some (Rule.among s.categories e) :=
    (find?_key_eq_some_iff (nodup_listedRules hs)).2 ⟨mem_listedRules.2 ⟨e, he, rfl⟩, rfl⟩
  have hkept : (e.deprecated && !e.replacementIds.isEmpty) = false := by
    cases hold : e.deprecated with
    | false => rfl
    | true => rw [(hdeprecated hold).2]; rfl
  unfold expandUse
  rw [hfind]
  simp only [Rule.among, hkept, Bool.false_eq_true, if_false]

end

/-! ## Selections -/

section

variable {c : Config} {ids : List String}

/-- A selection is made in three steps: what is used, what is left out, and the difference. -/
theorem selectRules_eq_bind {rules : List Rule} {categories : List Category} :
    c.selectRules rules categories =
      (if c.use.isEmpty then .ok ((rules.filter (·.isDefault)).map (·.id))
        else expandAll (expandUse rules categories) c.use) >>= fun used =>
        expandAll (expandExcept rules categories) c.except >>= fun removed =>
          .ok ((Text.sortedUnique used).filter fun id => !removed.contains id) := by
  unfold selectRules
  split <;> rfl

/-- A selection is what is used, in order and each rule once, without what is left out. -/
theorem selectRules_eq_ok_iff {rules : List Rule} {categories : List Category} :
    c.selectRules rules categories = .ok ids ↔ ∃ used removed,
      (if c.use.isEmpty then .ok ((rules.filter (·.isDefault)).map (·.id))
        else expandAll (expandUse rules categories) c.use) = Except.ok used ∧
      expandAll (expandExcept rules categories) c.except = .ok removed ∧
      (Text.sortedUnique used).filter (fun id => !removed.contains id) = ids := by
  rw [selectRules_eq_bind]
  constructor
  · intro h
    obtain ⟨used, hused, h⟩ := exists_of_bind_eq_ok h
    obtain ⟨removed, hremoved, h⟩ := exists_of_bind_eq_ok h
    exact ⟨used, removed, hused, hremoved, Except.ok.inj h⟩
  · rintro ⟨used, removed, hused, hremoved, rfl⟩
    rw [hused, hremoved]
    rfl

/-- A selection is in ascending order. -/
theorem sorted_of_selectRules {rules : List Rule} {categories : List Category}
    (h : c.selectRules rules categories = .ok ids) : ids.Pairwise (· < ·) := by
  obtain ⟨used, -, -, -, rfl⟩ := selectRules_eq_ok_iff.1 h
  exact (Text.pairwise_sortedUnique used).filter _

variable {s : Spec} (hs : s.Registered)

include hs

/-- All rules of a selection are on offer to those who ask for the entries of `use`. -/
theorem offers_of_selectRules (h : c.selectRules s.listedRules s.listedCategories = .ok ids) :
    ∀ id ∈ ids, s.Offers c.use id := by
  intro id hid
  obtain ⟨used, removed, hused, -, rfl⟩ := selectRules_eq_ok_iff.1 h
  have hmem : id ∈ used := Text.mem_sortedUnique.1 (List.mem_filter.1 hid).1
  split at hused
  · cases hused
    exact offers_of_declaresRule (declaresRule_of_isDefault hs hmem)
  · obtain ⟨entry, hentry, here, hhere, hid⟩ := mem_of_expandAll hused hmem
    exact offers_of_expandUse hs hentry hhere hid

/-- Rules on offer, in order, are what they select when they are used and none is left out. -/
theorem selectRules_eq_of_offers {entries : List String} (hsorted : ids.Pairwise (· < ·))
    (hoffers : ∀ id ∈ ids, s.Offers entries id) (hne : ids ≠ []) (huse : c.use = ids)
    (hexcept : c.except = []) : c.selectRules s.listedRules s.listedCategories = .ok ids := by
  have hnonempty : ids.isEmpty = false := List.isEmpty_eq_false_iff.2 hne
  have hused : expandAll (expandUse s.listedRules s.listedCategories) ids = .ok ids :=
    expandAll_of_single fun id hid => expandUse_of_offers hs (hoffers id hid)
  refine selectRules_eq_ok_iff.2 ⟨ids, [], ?_, ?_, ?_⟩
  · rw [huse, hnonempty]
    exact hused
  · rw [hexcept]
    rfl
  · rw [Text.sortedUnique_of_pairwise hsorted]
    exact List.filter_eq_self.2 fun _ _ => rfl

end

/-! ## Requests -/

end Config

/-- An option that was accepted reads back. -/
theorem Options.getText?_of_mem_ofPairs {o : Options} {pairs : List (String × Bytes)}
    (h : Options.ofPairs pairs = .ok o) {key text : String}
    (hmem : (key, Bytes.ofString text) ∈ pairs) : o.getText? key = .ok (some text) := by
  have hperm : o.entries.Perm pairs := perm_of_insertAll h
  have hnodup : (o.entries.map Prod.fst).Nodup :=
    List.pairwise_map.2 (o.sorted.imp Std.ne_of_lt)
  have hfind : (o.entries.find? fun e => e.1 == key) = some (key, Bytes.ofString text) :=
    (find?_key_eq_some_iff hnodup).2 ⟨hperm.mem_iff.2 hmem, rfl⟩
  unfold getText? get?
  rw [hfind]
  simp only [Option.map_some, Bytes.toString?_ofString]

namespace Config

/-- What a configuration makes of files: a request about them that names the rules that were
selected, of which there are some, and in which every option reads as it was configured. -/
structure Makes (c : Config) (files againstFiles : List SchemaFile) (ids : List String)
    (r : Request) : Prop where
  files : r.files = files
  againstFiles : r.againstFiles = againstFiles
  ruleIds : r.ruleIds = ids
  ruleIds_ne_nil : r.ruleIds ≠ []
  options : ∀ o ∈ c.options, r.options.getText? o.1 = .ok (some o.2)

/-- When a configuration makes a request: something is selected, and the options are accepted. -/
theorem request_eq_ok_iff {c : Config} {files againstFiles : List SchemaFile} {rules : List Rule}
    {categories : List Category} {r : Request} :
    c.request files againstFiles rules categories = .ok r ↔
      r.files = files ∧ r.againstFiles = againstFiles ∧ r.ruleIds ≠ [] ∧
        c.selectRules rules categories = .ok r.ruleIds ∧ c.toOptions = .ok r.options := by
  constructor
  · intro h
    obtain ⟨ids, hids, h⟩ := exists_of_bind_eq_ok h
    obtain ⟨hne, h⟩ := unless_eq_ok_iff.1 h
    obtain ⟨options, hoptions, h⟩ := exists_of_bind_eq_ok h
    obtain ⟨hfiles, hagainst, hrules, hall⟩ := RequestBuilder.build_eq_ok_iff.1 h
    rw [Text.sortedUnique_of_pairwise (sorted_of_selectRules hids)] at hrules
    obtain rfl : r.ruleIds = ids := hrules
    obtain rfl : options = r.options := Except.ok.inj hall
    exact ⟨hfiles, hagainst, List.isEmpty_eq_false_iff.1 hne, hids, hoptions⟩
  · rintro ⟨hfiles, hagainst, hne, hids, hoptions⟩
    have hempty : r.ruleIds.isEmpty = false := List.isEmpty_eq_false_iff.2 hne
    unfold request
    rw [hids]
    refine (unless_eq_ok_iff (e := .config "Configuration selects no rules")).2 ⟨hempty, ?_⟩
    rw [hoptions]
    exact RequestBuilder.build_eq_ok_iff.2
      ⟨hfiles, hagainst, (Text.sortedUnique_of_pairwise r.ids_sorted).symm, rfl⟩

/-- The request of a configuration is made of its selection. -/
theorem made_of_request {c : Config} {files againstFiles : List SchemaFile} {rules : List Rule}
    {categories : List Category} {r : Request}
    (h : c.request files againstFiles rules categories = .ok r) :
    ∃ ids, c.selectRules rules categories = .ok ids ∧ c.Makes files againstFiles ids r := by
  obtain ⟨hfiles, hagainst, hne, hids, hoptions⟩ := request_eq_ok_iff.1 h
  exact ⟨r.ruleIds, hids, hfiles, hagainst, rfl, hne, fun o ho =>
    Options.getText?_of_mem_ofPairs hoptions (List.mem_map.2 ⟨o, ho, rfl⟩)⟩

end Config

end SchemaCheck
