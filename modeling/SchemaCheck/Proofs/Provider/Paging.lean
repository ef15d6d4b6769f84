import Mathlib.Data.List.Nodup
import SchemaCheck.Proofs.Spec.Validity
import SchemaCheck.Provider

/-!
# Pages

A token stands for what of a listing is still to come (`TokenAt`). The page at a token starts there,
and its own token stands for what comes after it (`Provider.page_of_tokenAt`, `TokenAt.next`), given
that no key is empty or occurs twice. The listings of a valid spec are like that.
-/

namespace SchemaCheck

variable {α : Type} {key : α → String} {listing rest : List α} {token : String}

/-- Whether a token stands for the rest of a listing: the empty one for all of it, the key of an
entry for what starts there. -/
def TokenAt (key : α → String) (listing rest : List α) (token : String) : Prop :=
  (token = "" ∧ rest = listing) ∨
    ∃ before a after, listing = before ++ a :: after ∧ rest = a :: after ∧ token = key a

/-- The token of what is left after a number of entries. -/
def nextToken (key : α → String) (rest : List α) (n : Nat) : String :=
  ((rest.drop n).head?.map key).getD ""

/-- No key is empty. -/
def KeysNonempty (key : α → String) (listing : List α) : Prop := ∀ a ∈ listing, key a ≠ ""

/-- The empty token stands for all of a listing. -/
theorem tokenAt_empty (key : α → String) (listing : List α) : TokenAt key listing listing "" :=
  .inl ⟨rfl, rfl⟩

/-- What a token stands for is the end of the listing. -/
theorem TokenAt.suffix (h : TokenAt key listing rest token) : rest <:+ listing := by
  rcases h with ⟨-, rfl⟩ | ⟨before, a, after, rfl, rfl, -⟩
  · exact List.suffix_refl _
  · exact List.suffix_append _ _

/-- The token of a page is empty only at the end, and else stands for what comes after the page. -/
theorem TokenAt.next (h : TokenAt key listing rest token) (hkeys : KeysNonempty key listing)
    (n : Nat) : (nextToken key rest n = "" ∧ rest.drop n = []) ∨
      (nextToken key rest n ≠ "" ∧ TokenAt key listing (rest.drop n) (nextToken key rest n)) := by
  have hsuffix : rest.drop n <:+ listing := (List.drop_suffix n rest).trans h.suffix
  unfold nextToken
  cases hdrop : rest.drop n with
  | nil => exact .inl ⟨rfl, rfl⟩
  | cons a after =>
    rw [hdrop] at hsuffix
    obtain ⟨before, hbefore⟩ := hsuffix
    refine .inr ⟨hkeys a ?_, .inr ⟨before, a, after, hbefore.symm, rfl, rfl⟩⟩
    rw [← hbefore]
    exact List.mem_append_right _ List.mem_cons_self

/-- Going to the entry with a key goes past all that stand before it. -/
theorem dropWhile_key {before after : List α} {a : α} (h : ((before ++ a :: after).map key).Nodup) :
    (before ++ a :: after).dropWhile (fun b => key b != key a) = a :: after := by
  induction before with
  | nil => rw [List.nil_append, List.dropWhile_cons_of_neg (by simp)]
  | cons b before ih =>
    rw [List.cons_append, List.map_cons, List.nodup_cons] at h
    have hne : key b ≠ key a := fun heq => h.1 (by simp [heq])
    rw [List.cons_append, List.dropWhile_cons_of_pos (by simpa using hne), ih h.2]

namespace Provider

/-- The number of entries that a request for a page asks for. -/
def sizeOf (m : PageMessage) : Nat := if m.pageSize = 0 then defaultPageSize else m.pageSize.toNat

/-- The page at a token has the first entries of what the token stands for, and the token of what is
left. -/
theorem page_of_tokenAt {m : PageMessage} (h : TokenAt key listing rest m.pageToken)
    (hkeys : KeysNonempty key listing) (hnodup : (listing.map key).Nodup) :
    page key listing m
      = .ok
        { nextPageToken := nextToken key rest (sizeOf m), entries := rest.take (sizeOf m) } := by
  unfold page
  rcases h with ⟨htoken, rfl⟩ | ⟨before, a, after, rfl, rfl, htoken⟩
  · rw [htoken]
    rfl
  · have hne : m.pageToken.isEmpty = false := by
      have := hkeys a (List.mem_append_right _ List.mem_cons_self)
      rw [htoken]
      simpa using this
    rw [hne, htoken, dropWhile_key hnodup]
    rfl

end Provider

/-! ## Sorting by key -/

/-- Entries in the order of their keys. -/
def sortByKey (key : α → String) (as : List α) : List α := as.mergeSort fun a b => key a ≤ key b

/-- Sorting neither adds nor takes away. -/
theorem sortByKey_perm (key : α → String) (as : List α) : (sortByKey key as).Perm as :=
  List.mergeSort_perm as _

/-- Sorted entries are in the order of their keys. -/
theorem pairwise_sortByKey (key : α → String) (as : List α) :
    (sortByKey key as).Pairwise fun a b => key a ≤ key b := by
  have h := @List.pairwise_mergeSort α (fun a b => decide (key a ≤ key b))
    (fun a b c hab hbc => by
      simpa using String.le_trans (of_decide_eq_true hab) (of_decide_eq_true hbc))
    (fun a b => by simpa using String.le_total (key a) (key b)) as
  exact h.imp of_decide_eq_true

/-- Sorting forgets the order of a list without repeated keys. -/
theorem sortByKey_eq_of_perm {as bs : List α} (h : as.Perm bs) (hnodup : (as.map key).Nodup) :
    sortByKey key as = sortByKey key bs := by
  refine List.Perm.eq_of_pairwise (fun a b ha hb hab hba => ?_) (pairwise_sortByKey key as)
    (pairwise_sortByKey key bs)
    ((sortByKey_perm key as).trans (h.trans (sortByKey_perm key bs).symm))
  have ha : a ∈ as := (sortByKey_perm key as).mem_iff.1 ha
  have hb : b ∈ as := h.mem_iff.2 ((sortByKey_perm key bs).mem_iff.1 hb)
  exact List.inj_on_of_nodup_map hnodup ha hb (String.le_antisymm hab hba)

/-- A list that is in the order of its keys stays as it is. -/
theorem sortByKey_of_pairwise {as : List α} (h : as.Pairwise fun a b => key a ≤ key b) :
    sortByKey key as = as :=
  List.mergeSort_of_pairwise (h.imp decide_eq_true)

/-- Sorting again changes nothing. -/
theorem sortByKey_sortByKey (key : α → String) (as : List α) :
    sortByKey key (sortByKey key as) = sortByKey key as :=
  sortByKey_of_pairwise (pairwise_sortByKey key as)

/-- Keys that are what others are keep their order. -/
theorem map_sortByKey {β : Type} {key' : β → String} {f : α → β} (h : ∀ a, key' (f a) = key a)
    (as : List α) : (sortByKey key as).map f = sortByKey key' (as.map f) := by
  refine List.map_mergeSort fun a _ b _ => ?_
  rw [h, h]

/-- Rules without repeated identifiers are listed in order. -/
theorem Rule.sortUnique_eq_ok {rules : List Rule} (h : (rules.map Rule.id).Nodup) :
    Rule.sortUnique rules = .ok (sortByKey Rule.id rules) := by
  rw [Rule.sortUnique, Identifier.requireUnique_eq_ok_iff.2 h]
  rfl

/-- Categories without repeated identifiers are listed in order. -/
theorem Category.sortUnique_eq_ok {categories : List Category}
    (h : (categories.map Category.id).Nodup) :
    Category.sortUnique categories = .ok (sortByKey Category.id categories) := by
  rw [Category.sortUnique, Identifier.requireUnique_eq_ok_iff.2 h]
  rfl

/-- Rules that are listed in order have no repeated identifiers. -/
theorem Rule.nodup_of_sortUnique {rules listed : List Rule}
    (h : Rule.sortUnique rules = .ok listed) : (rules.map Rule.id).Nodup := by
  obtain ⟨_, hunique, -⟩ := exists_of_bind_eq_ok h
  exact Identifier.requireUnique_eq_ok_iff.1 hunique

/-! ## The listings of a spec -/

namespace Provider

variable (p : Provider)

/-- Rules are served in the order of their identifiers. -/
theorem ruleListing_eq : p.ruleListing = sortByKey RuleEntry.id p.spec.ruleEntries := rfl

/-- Categories are served in the order of their identifiers. -/
theorem categoryListing_eq : p.categoryListing = sortByKey Category.id p.spec.categories := rfl

/-- The entries of a spec have the identifiers of its rules. -/
theorem map_id_ruleEntries (s : Spec) : s.ruleEntries.map RuleEntry.id = s.ruleIds := by
  simp [Spec.ruleEntries, Spec.ruleIds, Function.comp_def]

/-- No two rules that are served have one identifier. -/
theorem nodup_ruleListing : (p.ruleListing.map RuleEntry.id).Nodup := by
  have hperm := (sortByKey_perm RuleEntry.id p.spec.ruleEntries).map RuleEntry.id
  rw [ruleListing_eq, hperm.nodup_iff, map_id_ruleEntries]
  exact p.valid.nodup_ruleIds

/-- No two categories that are served have one identifier. -/
theorem nodup_categoryListing : (p.categoryListing.map Category.id).Nodup := by
  have hperm := (sortByKey_perm Category.id p.spec.categories).map Category.id
  rw [categoryListing_eq, hperm.nodup_iff]
  exact p.valid.nodup_categoryIds

/-- No well-formed identifier is empty. -/
theorem ne_empty_of_isWellFormed {kind : IdKind} {id : String}
    (h : Identifier.isWellFormed kind id = true) : id ≠ "" := by
  rintro rfl
  simp [Identifier.isWellFormed, Identifier.violation?] at h

/-- Identifiers of rules are no empty tokens, since they are well-formed. -/
theorem keysNonempty_ruleListing : KeysNonempty RuleEntry.id p.ruleListing := by
  intro e he
  have he : e ∈ p.spec.ruleEntries := (sortByKey_perm _ _).mem_iff.1 he
  have hid : e.id ∈ p.spec.ruleIds := by
    rw [← map_id_ruleEntries]
    exact List.mem_map.2 ⟨e, he, rfl⟩
  exact ne_empty_of_isWellFormed (p.valid.ruleIds_wellFormed _ hid)

/-- Identifiers of categories are no empty tokens, since they are well-formed. -/
theorem keysNonempty_categoryListing : KeysNonempty Category.id p.categoryListing := by
  intro c hc
  have hc : c ∈ p.spec.categories := (sortByKey_perm _ _).mem_iff.1 hc
  exact ne_empty_of_isWellFormed
    (p.valid.categoryIds_wellFormed _ (List.mem_map.2 ⟨c, hc, rfl⟩))

end Provider

end SchemaCheck
