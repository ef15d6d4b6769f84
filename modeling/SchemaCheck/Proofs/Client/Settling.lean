import SchemaCheck.Proofs.Client.Mirror
import SchemaCheck.Proofs.Spec.Registry

/-!
# What comes of entries

When all entries of a listing are there, what comes of it is settled by them: a fault that says what
is wrong with them, or all of them in the order of identifiers (`Listing.Settles`). The entries of
rules are first given the categories that they name, which have to be known (`RuleEntry.Settles`).
-/

namespace SchemaCheck

/-! ## The two listings -/

namespace Listing

variable {α : Type}

/-- The identifier of what is listed. -/
def key : Listing α → α → String
  | rules => Rule.id
  | categories => Category.id

/-- The kind of the identifiers. -/
def kind : Listing α → IdKind
  | rules => .rule
  | categories => .category

/-- What is listed in order, provided that no two have one identifier. -/
def sortUnique : Listing α → List α → Result (List α)
  | rules => Rule.sortUnique
  | categories => Category.sortUnique

/-- What is listed is in the order of identifiers, and no two entries have one identifier. -/
def Ascending (ℓ : Listing α) (as : List α) : Prop := (as.map ℓ.key).Pairwise (· < ·)

instance (ℓ : Listing α) (as : List α) : Decidable (ℓ.Ascending as) :=
  inferInstanceAs (Decidable (List.Pairwise _ _))

/-- No identifier occurs twice among those that ascend. -/
theorem Ascending.nodup {ℓ : Listing α} {as : List α} (h : ℓ.Ascending as) :
    (as.map ℓ.key).Nodup :=
  h.imp Std.ne_of_lt

/-- To list in order is to ask for different identifiers, and to sort. -/
theorem sortUnique_eq_bind (ℓ : Listing α) (as : List α) : ℓ.sortUnique as =
    Identifier.requireUnique ℓ.kind (as.map ℓ.key) >>= fun _ => .ok (sortByKey ℓ.key as) := by
  cases ℓ <;> rfl

/-- What is listed is accepted when no identifier is repeated, and then put in order. -/
theorem sortUnique_eq_ok_iff (ℓ : Listing α) {as bs : List α} :
    ℓ.sortUnique as = .ok bs ↔ (as.map ℓ.key).Nodup ∧ bs = sortByKey ℓ.key as := by
  rw [sortUnique_eq_bind]
  constructor
  · intro h
    obtain ⟨_, hunique, hsort⟩ := exists_of_bind_eq_ok h
    exact ⟨Identifier.requireUnique_eq_ok_iff.1 hunique, (Except.ok.inj hsort).symm⟩
  · rintro ⟨hnodup, rfl⟩
    rw [Identifier.requireUnique_eq_ok_iff.2 hnodup]
    rfl

/-- What is accepted together is accepted in part. -/
theorem exists_sortUnique_of_sublist (ℓ : Listing α) {as bs cs : List α} (h : cs.Sublist as)
    (has : ℓ.sortUnique as = .ok bs) : ∃ ds, ℓ.sortUnique cs = .ok ds :=
  ⟨_, ℓ.sortUnique_eq_ok_iff.2 ⟨(ℓ.sortUnique_eq_ok_iff.1 has).1.sublist (h.map ℓ.key), rfl⟩⟩

/-- What is listed is refused when identifiers are repeated, and these are reported. -/
theorem sortUnique_eq_error_iff (ℓ : Listing α) {as : List α} {e : Fault} :
    ℓ.sortUnique as = .error e ↔
      ∃ ids, Text.AreRepeated (as.map ℓ.key) ids ∧ e = .duplicateId ℓ.kind ids := by
  have hdecides : Decides (Identifier.requireUnique ℓ.kind (as.map ℓ.key)) _ :=
    Identifier.decides_requireUnique _
  rw [sortUnique_eq_bind]
  cases hunique : Identifier.requireUnique ℓ.kind (as.map ℓ.key) with
  | ok _ =>
    rw [hunique] at hdecides
    refine ⟨nofun, ?_⟩
    rintro ⟨ids, hrepeated, rfl⟩
    exact absurd ⟨ids, hrepeated, rfl⟩ (hdecides _)
  | error f =>
    rw [hunique] at hdecides
    obtain ⟨ids, hrepeated, rfl⟩ := hdecides
    constructor
    · intro h
      cases h
      exact ⟨ids, hrepeated, rfl⟩
    · rintro ⟨ids', hrepeated', rfl⟩
      rw [hrepeated.eq_duplicates, hrepeated'.eq_duplicates]
      rfl

/-- What comes of entries that are to be listed: a fault that says which identifiers are repeated,
or all entries, in the order of their identifiers. -/
inductive Settles (ℓ : Listing α) (entries : List α) : Result (List α) → Prop where
  | repeated {ids : List String} : Text.AreRepeated (entries.map ℓ.key) ids →
      Settles ℓ entries (.error (.duplicateId ℓ.kind ids))
  | listed {as : List α} : as.Perm entries → ℓ.Ascending as → Settles ℓ entries (.ok as)

/-- To sort entries without repetitions settles what comes of them. -/
theorem settles_iff (ℓ : Listing α) {entries : List α} {result : Result (List α)} :
    ℓ.Settles entries result ↔ ℓ.sortUnique entries = result := by
  constructor
  · intro h
    cases h with
    | repeated hrepeated => exact ℓ.sortUnique_eq_error_iff.2 ⟨_, hrepeated, rfl⟩
    | @listed as hperm hsorted =>
      have hle : as.Pairwise fun a b => ℓ.key a ≤ ℓ.key b :=
        (List.pairwise_map.1 hsorted).imp Std.le_of_lt
      refine ℓ.sortUnique_eq_ok_iff.2 ⟨(hperm.map ℓ.key).nodup_iff.1 hsorted.nodup, ?_⟩
      rw [← sortByKey_eq_of_perm hperm hsorted.nodup, sortByKey_of_pairwise hle]
  · rintro rfl
    cases hsort : ℓ.sortUnique entries with
    | error e =>
      obtain ⟨ids, hrepeated, rfl⟩ := ℓ.sortUnique_eq_error_iff.1 hsort
      exact .repeated hrepeated
    | ok as =>
      obtain ⟨hnodup, rfl⟩ := ℓ.sortUnique_eq_ok_iff.1 hsort
      have hperm := sortByKey_perm ℓ.key entries
      exact .listed hperm (pairwise_lt_sortByKey ((hperm.map ℓ.key).nodup_iff.2 hnodup))

/-- What is in order already stays as it is. -/
theorem Ascending.sortUnique_eq {ℓ : Listing α} {as : List α} (h : ℓ.Ascending as) :
    ℓ.sortUnique as = .ok as :=
  ℓ.settles_iff.1 (.listed (.refl as) h)

/-- What comes of entries does not hang on their order. -/
theorem Settles.of_perm {ℓ : Listing α} {entries others : List α} {result : Result (List α)}
    (h : ℓ.Settles entries result) (hperm : entries.Perm others) : ℓ.Settles others result := by
  cases h with
  | repeated hrepeated =>
    refine .repeated ⟨hrepeated.ne_nil, hrepeated.sorted, fun id => ?_⟩
    rw [hrepeated.mem_iff, (hperm.map ℓ.key).count_eq]
  | listed has hsorted => exact .listed (has.trans hperm) hsorted

/-- A listing is the same for every order in which its entries arrive. -/
theorem sortUnique_eq_of_perm (ℓ : Listing α) {entries others : List α}
    (hperm : entries.Perm others) : ℓ.sortUnique entries = ℓ.sortUnique others :=
  (ℓ.settles_iff.1 ((ℓ.settles_iff.2 rfl).of_perm hperm)).symm

end Listing

/-! ## What comes of rules -/

/-- What comes of the entries of rules, in the order of the pages, among known categories. When some
entry names a category that is not known, the fault is that of the first such entry and names the
first such category. Otherwise every entry describes a rule with its categories, and the rules are
listed, unless identifiers are repeated. -/
inductive RuleEntry.Settles (known : List Category) (entries : List RuleEntry) :
    Result (List Rule) → Prop where
  | dangling {before after : List RuleEntry} {e : RuleEntry} {ids others : List String}
      {id : String} : entries = before ++ e :: after →
      (∀ earlier ∈ before, ∀ id ∈ earlier.categoryIds, id ∈ known.map Category.id) →
      e.categoryIds = ids ++ id :: others → (∀ id ∈ ids, id ∈ known.map Category.id) →
      id ∉ known.map Category.id → Settles known entries (.error (.danglingCategory e.id id))
  | described {rules : List Rule} {result : Result (List Rule)} :
      List.Forall₂ (RuleEntry.MirroredBy known) entries rules →
      Listing.rules.Settles rules result → Settles known entries result

namespace Rule

variable {known : List Category}

/-- The first category that is not known is reported. -/
theorem findCategories_eq_error (ruleId : String) {ids others : List String} {id : String}
    (hids : ∀ id ∈ ids, id ∈ known.map Category.id) (hid : id ∉ known.map Category.id) :
    findCategories ruleId known (ids ++ id :: others) = .error (.danglingCategory ruleId id) := by
  induction ids with
  | nil => rw [List.nil_append, findCategories, find?_key_eq_none hid]
  | cons first ids ih =>
    obtain ⟨hfirst, hrest⟩ := List.forall_mem_cons.1 hids
    obtain ⟨c, -, hfind, -⟩ := exists_find?_eq hfirst
    rw [List.cons_append, findCategories, hfind, ih hrest]
    rfl

/-- The first entry that names a category that is not known is reported. -/
theorem ofEntries_eq_error {before after : List RuleEntry} {e : RuleEntry}
    {ids others : List String} {id : String}
    (hbefore : ∀ earlier ∈ before, ∀ id ∈ earlier.categoryIds, id ∈ known.map Category.id)
    (hsplit : e.categoryIds = ids ++ id :: others) (hids : ∀ id ∈ ids, id ∈ known.map Category.id)
    (hid : id ∉ known.map Category.id) :
    ofEntries known (before ++ e :: after) = .error (.danglingCategory e.id id) := by
  induction before with
  | nil =>
    rw [List.nil_append, ofEntries, ofEntry, hsplit, findCategories_eq_error e.id hids hid]
    rfl
  | cons first before ih =>
    obtain ⟨hfirst, hrest⟩ := List.forall_mem_cons.1 hbefore
    rw [List.cons_append, ofEntries, ofEntry, findCategories_eq_ok first.id hfirst, ih hrest]
    rfl

end Rule

namespace RuleEntry

variable {known : List Category} {entries : List RuleEntry} {result : Result (List Rule)}

/-- Among categories with different identifiers an entry is mirrored by one rule, and only when the
categories that it names are known. -/
theorem MirroredBy.eq_among (hknown : (known.map Category.id).Nodup) {e : RuleEntry} {r : Rule}
    (h : e.MirroredBy known r) :
    (∀ id ∈ e.categoryIds, id ∈ known.map Category.id) ∧ Rule.among known e = r := by
  have hfound : ∀ {ids : List String} {cs : List Category},
      List.Forall₂ (fun id c => c ∈ known ∧ c.id = id) ids cs →
      (∀ id ∈ ids, id ∈ known.map Category.id) ∧
        (ids.filterMap fun id => known.find? fun c => c.id == id) = cs := by
    intro ids cs h
    induction h with
    | nil => exact ⟨fun _ h => absurd h List.not_mem_nil, rfl⟩
    | @cons id c ids cs hc _ ih =>
      refine ⟨List.forall_mem_cons.2 ⟨List.mem_map.2 ⟨c, hc⟩, ih.1⟩, ?_⟩
      rw [List.filterMap_cons, (find?_key_eq_some_iff hknown).2 hc, ih.2]
  obtain ⟨hids, hcategories⟩ := hfound h.categories
  refine ⟨hids, ?_⟩
  rw [Rule.among, hcategories, ← h.id, ← h.isDefault, ← h.purpose, ← h.type, ← h.deprecated,
    ← h.replacementIds]

/-- Entries are mirrored by the rules that they describe. -/
theorem map_among_eq (hknown : (known.map Category.id).Nodup) {rules : List Rule}
    (h : List.Forall₂ (RuleEntry.MirroredBy known) entries rules) :
    (∀ e ∈ entries, ∀ id ∈ e.categoryIds, id ∈ known.map Category.id) ∧
      entries.map (Rule.among known) = rules := by
  induction h with
  | nil => exact ⟨fun _ h => absurd h List.not_mem_nil, rfl⟩
  | cons hmirrored _ ih =>
    obtain ⟨hids, heq⟩ := hmirrored.eq_among hknown
    exact ⟨List.forall_mem_cons.2 ⟨hids, ih.1⟩, by rw [List.map_cons, heq, ih.2]⟩

/-- To describe rules by entries and to sort them settles what comes of the entries. -/
theorem settles_iff (hknown : (known.map Category.id).Nodup) :
    Settles known entries result ↔
      (do let rules ← Rule.ofEntries known entries; Rule.sortUnique rules) = result := by
  constructor
  · intro h
    cases h with
    | dangling hentries hbefore hsplit hids hid =>
      rw [hentries, Rule.ofEntries_eq_error hbefore hsplit hids hid]
      rfl
    | described hmirrored hsettles =>
      obtain ⟨hids, rfl⟩ := map_among_eq hknown hmirrored
      rw [Rule.ofEntries_eq_ok hids]
      exact Listing.rules.settles_iff.1 hsettles
  · rintro rfl
    rcases forall_or_exists_first
      (fun e : RuleEntry => ∀ id ∈ e.categoryIds, id ∈ known.map Category.id) entries with
      hall | ⟨before, e, after, rfl, hbefore, he⟩
    · rw [Rule.ofEntries_eq_ok hall]
      refine .described ?_ (Listing.rules.settles_iff.2 rfl)
      rw [List.forall₂_map_right_iff, List.forall₂_same]
      exact fun e he => ⟨rfl, rfl, rfl, rfl, rfl, rfl, Rule.forall₂_find? (hall e he)⟩
    · rcases forall_or_exists_first (· ∈ known.map Category.id) e.categoryIds with
        hids | ⟨ids, id, others, hsplit, hids, hid⟩
      · exact absurd hids he
      · rw [Rule.ofEntries_eq_error hbefore hsplit hids hid]
        exact .dangling rfl hbefore hsplit hids hid

end RuleEntry

end SchemaCheck
