import SchemaCheck.Proofs.Client.Merging
import SchemaCheck.Proofs.Client.Union

/-!
# Identifiers across several clients

Several clients as one list what they list together, provided that no two rules, or no two
categories, have one identifier (`CheckClient.list_multi_eq_ok_iff`). No rule is compared with a
category. Within a valid spec that is made up for: there no rule has the identifier of a category.
So several clients list a rule and a category with one identifier just when two different specs
declare them (`Client.together_listings`), as two valid specs may
(`Client.together_listings_collide`).
-/

namespace SchemaCheck

namespace Spec

variable {α : Type}

/-- What of a spec is listed. -/
def listed (s : Spec) : Listing α → List α
  | .rules => s.listedRules
  | .categories => s.listedCategories

/-- The identifiers of what of a spec is listed. -/
def declared (s : Spec) : Listing α → List String
  | .rules => s.ruleIds
  | .categories => s.categoryIds

variable (s : Spec) (ℓ : Listing α)

/-- What a spec lists has the identifiers that it declares. -/
theorem map_key_listed_perm : ((s.listed ℓ).map ℓ.key).Perm (s.declared ℓ) := by
  cases ℓ with
  | rules => exact s.map_id_listedRules_perm
  | categories => exact s.map_id_listedCategories_perm

/-- What several specs list has the identifiers that they declare, taken together. -/
theorem map_key_flatMap_listed_perm (specs : List Spec) :
    ((specs.flatMap fun s => s.listed ℓ).map ℓ.key).Perm (specs.flatMap fun s => s.declared ℓ) := by
  rw [List.map_flatMap]
  exact List.Perm.flatMap_left specs fun s _ => s.map_key_listed_perm ℓ

variable {s}

/-- What is listed of a valid spec is in order. -/
theorem IsValid.ascending_listed (h : s.IsValid) : ℓ.Ascending (s.listed ℓ) := by
  cases ℓ with
  | rules => exact h.mirroredBy.rules_ascending
  | categories => exact h.mirroredBy.categories_ascending

end Spec

namespace CheckClient

variable {σ α : Type} {P : Session σ → Prop} {members : List (CheckClient σ × Spec)}

/-- Clients that each list a valid spec do so in turn. -/
theorem exists_listsLive (hP : ∀ s, P s → s.context.isLive) (ℓ : Listing α)
    (hlists : ∀ m ∈ members, (m.1.list ℓ).Gives P (m.2.listed ℓ)) {s : Session σ} (hs : P s) :
    ∃ t, ListsLive ℓ (members.map fun m => (m.1, m.2.listed ℓ)) s t := by
  induction members generalizing s with
  | nil => exact ⟨s, .nil⟩
  | cons m members ih =>
    obtain ⟨hm, hrest⟩ := List.forall_mem_cons.1 hlists
    obtain ⟨t, hrun, ht⟩ := hm s hs
    obtain ⟨u, h⟩ := ih hrest ht
    exact ⟨u, .cons (hP s hs) hrun h⟩

/-- What several clients list as one, when each lists a valid spec. -/
theorem list_multi_runIn (hP : ∀ s, P s → s.context.isLive) (ℓ : Listing α)
    (hlists : ∀ m ∈ members, (m.1.list ℓ).Gives P (m.2.listed ℓ))
    (hvalid : ∀ m ∈ members, m.2.IsValid) {s : Session σ} (hs : P s) :
    (((multi (members.map Prod.fst)).list ℓ).runIn s).1
      = Call.lift (ℓ.sortUnique ((members.map Prod.snd).flatMap fun spec => spec.listed ℓ)) := by
  obtain ⟨t, h⟩ := exists_listsLive hP ℓ hlists hs
  have hrun := list_multi_of_lists h fun m hm => by
    obtain ⟨member, hmember, rfl⟩ := List.mem_map.1 hm
    exact (hvalid member hmember).ascending_listed ℓ
  simp only [List.map_map, Function.comp_def] at hrun
  rw [List.flatMap_def, List.map_map, hrun]
  rfl

/-- Several clients that list valid specs list something as one just when no two of them list one
identifier, and then all that they list. -/
theorem list_multi_eq_ok_iff (hP : ∀ s, P s → s.context.isLive) (ℓ : Listing α)
    (hlists : ∀ m ∈ members, (m.1.list ℓ).Gives P (m.2.listed ℓ))
    (hvalid : ∀ m ∈ members, m.2.IsValid) {s : Session σ} (hs : P s) {as : List α} :
    (((multi (members.map Prod.fst)).list ℓ).runIn s).1 = .ok as ↔
      ((members.map Prod.snd).flatMap fun spec => spec.declared ℓ).Nodup ∧
        as = sortByKey ℓ.key ((members.map Prod.snd).flatMap fun spec => spec.listed ℓ) := by
  rw [list_multi_runIn hP ℓ hlists hvalid hs, Call.lift_eq_ok_iff, ℓ.sortUnique_eq_ok_iff,
    (Spec.map_key_flatMap_listed_perm ℓ _).nodup_iff]

end CheckClient

/-! ## Clients of providers in the same program -/

namespace Client

variable {τ α : Type} {locals : List (Provider × Client τ)}

/-- Each client lists its spec. -/
theorem list_members_gives (hlocals : ∀ l ∈ locals, l.2.IsLocal l.1) (ℓ : Listing α) :
    ∀ m ∈ members locals, (m.1.list ℓ).Gives (ReadyAll locals) (m.2.listed ℓ) := by
  intro m hm
  obtain ⟨i, hi, rfl⟩ := exists_of_mem_members hm
  have hlocal := hlocals _ (List.getElem_mem hi)
  have hget : ∀ s, ReadyAll locals s →
      ClientState.Ready locals[i].1.spec ⟨s.context, (Slot.part i).get s.state⟩ :=
    fun s hs => ⟨hs.live, hs.fits i hi⟩
  cases ℓ with
  | rules => exact (listRules_gives hlocal).within hget fun s t hs ht => hs.put hi ht
  | categories => exact (listCategories_gives hlocal).within hget fun s t hs ht => hs.put hi ht

/-- What clients list together: all that their specs declare, if no two of them declare one
identifier. -/
theorem list_together_eq_ok_iff (hlocals : ∀ l ∈ locals, l.2.IsLocal l.1) (ℓ : Listing α)
    {s : Session (Nat → ClientState τ)} (hs : ReadyAll locals s) {as : List α} :
    (((together locals).list ℓ).runIn s).1 = .ok as ↔
      (locals.flatMap fun l => l.1.spec.declared ℓ).Nodup ∧
        as = sortByKey ℓ.key (locals.flatMap fun l => l.1.spec.listed ℓ) := by
  rw [together_eq_multi, CheckClient.list_multi_eq_ok_iff (fun s hs => hs.live) ℓ
    (list_members_gives hlocals ℓ) (fun m => isValid_of_mem_members) hs, map_snd_members,
    List.flatMap_map, List.flatMap_map]

/-- Several clients give a listing together just when no identifier is declared twice for it, in one
spec or in two. -/
theorem exists_list_together_iff (hlocals : ∀ l ∈ locals, l.2.IsLocal l.1) (ℓ : Listing α)
    {s : Session (Nat → ClientState τ)} (hs : ReadyAll locals s) :
    (∃ as, (((together locals).list ℓ).runIn s).1 = .ok as) ↔
      (locals.flatMap fun l => l.1.spec.declared ℓ).Nodup := by
  simp only [list_together_eq_ok_iff hlocals ℓ hs, exists_and_left, exists_eq, and_true]

/-- An identifier is listed just when some spec declares it. -/
theorem mem_list_together (hlocals : ∀ l ∈ locals, l.2.IsLocal l.1) (ℓ : Listing α)
    {s : Session (Nat → ClientState τ)} (hs : ReadyAll locals s) {as : List α}
    (h : (((together locals).list ℓ).runIn s).1 = .ok as) {id : String} :
    id ∈ as.map ℓ.key ↔ ∃ (i : Nat) (hi : i < locals.length), id ∈ locals[i].1.spec.declared ℓ := by
  obtain ⟨-, rfl⟩ := (list_together_eq_ok_iff hlocals ℓ hs).1 h
  have hperm := Spec.map_key_flatMap_listed_perm ℓ (locals.map fun l => l.1.spec)
  rw [List.flatMap_map, List.flatMap_map] at hperm
  rw [(((sortByKey_perm ℓ.key _).map ℓ.key).trans hperm).mem_iff, List.mem_flatMap]
  constructor
  · rintro ⟨l, hl, hid⟩
    obtain ⟨i, hi, rfl⟩ := List.mem_iff_getElem.1 hl
    exact ⟨i, hi, hid⟩
  · rintro ⟨i, hi, hid⟩
    exact ⟨_, List.getElem_mem hi, hid⟩

/-- Clients of providers in the same program list their rules together just when no two of them have
one identifier, and their categories likewise. When they list both, an identifier is that of a rule
and of a category just when one spec declares the rule and another the category. -/
theorem together_listings (hlocals : ∀ l ∈ locals, l.2.IsLocal l.1)
    {s t : Session (Nat → ClientState τ)} (hs : ReadyAll locals s) (ht : ReadyAll locals t) :
    ((∃ rules, ((together locals).listRules.runIn s).1 = .ok rules) ↔
      (locals.flatMap fun l => l.1.spec.ruleIds).Nodup) ∧
    ((∃ categories, ((together locals).listCategories.runIn t).1 = .ok categories) ↔
      (locals.flatMap fun l => l.1.spec.categoryIds).Nodup) ∧
    ∀ rules categories, ((together locals).listRules.runIn s).1 = .ok rules →
      ((together locals).listCategories.runIn t).1 = .ok categories → ∀ id,
        (id ∈ rules.map Rule.id ∧ id ∈ categories.map Category.id) ↔
          ∃ (i j : Nat) (hi : i < locals.length) (hj : j < locals.length), i ≠ j ∧
            id ∈ locals[i].1.spec.ruleIds ∧ id ∈ locals[j].1.spec.categoryIds := by
  refine ⟨?_, ?_, fun rules categories hrules hcategories id => ?_⟩
  · exact exists_list_together_iff hlocals .rules hs
  · exact exists_list_together_iff hlocals .categories ht
  · have hrule : id ∈ rules.map Rule.id ↔ _ := mem_list_together hlocals .rules hs hrules
    have hcategory : id ∈ categories.map Category.id ↔ _ :=
      mem_list_together hlocals .categories ht hcategories
    rw [hrule, hcategory]
    constructor
    · rintro ⟨⟨i, hi, hr⟩, j, hj, hc⟩
      refine ⟨i, j, hi, hj, ?_, hr, hc⟩
      rintro rfl
      -- one spec does not declare both
      have hnodup := (Spec.isValid_iff.1 locals[i].1.valid).2.2.2.2.2.1
      exact List.disjoint_of_nodup_append hnodup hr hc
    · rintro ⟨i, j, hi, hj, -, hr, hc⟩
      exact ⟨⟨i, hi, hr⟩, j, hj, hc⟩

/-- The two clients are those of their providers. -/
theorem isLocal_demo : ∀ l ∈ demo, l.2.IsLocal l.1 := by
  intro l hl
  rcases List.mem_pair.1 hl with rfl | rfl <;> exact ⟨rfl, by decide, by decide⟩

/-- `together_listings` for the demonstration rules in two parts, which list their rules and their
categories, none of them with one identifier. -/
theorem together_listings_demo :
    (∀ l ∈ demo, l.2.IsLocal l.1) ∧ ReadyAll demo ⟨{}, fun _ => { link := () }⟩ ∧
    ∃ rules categories,
      ((together demo).listRules.runIn ⟨{}, fun _ => { link := () }⟩).1 = .ok rules ∧
      ((together demo).listCategories.runIn ⟨{}, fun _ => { link := () }⟩).1 = .ok categories ∧
      ∀ id, ¬ (id ∈ rules.map Rule.id ∧ id ∈ categories.map Category.id) := by
  have hready : ReadyAll demo ⟨{}, fun _ => { link := () }⟩ :=
    readyAll_start demo (fun _ => ()) (by decide)
  obtain ⟨hrules, hcategories, hmeet⟩ := together_listings isLocal_demo hready hready
  obtain ⟨rules, hr⟩ := hrules.2 (by decide)
  obtain ⟨categories, hc⟩ := hcategories.2 (by decide)
  have hapart : ∀ id ∈ demo.flatMap fun l => l.1.spec.ruleIds,
      id ∉ demo.flatMap fun l => l.1.spec.categoryIds := by decide
  refine ⟨isLocal_demo, hready, rules, categories, hr, hc, fun id h => ?_⟩
  obtain ⟨i, j, hi, hj, -, hrule, hcategory⟩ := (hmeet rules categories hr hc id).1 h
  exact hapart id (List.mem_flatMap.2 ⟨_, List.getElem_mem hi, hrule⟩)
    (List.mem_flatMap.2 ⟨_, List.getElem_mem hj, hcategory⟩)

end Client

/-! ## Specs that collide -/

namespace Clash

/-- A spec with one rule, in the given categories, that finds nothing. -/
def spec (id : String) (categories : List Category) : Spec where
  rules := [{ id, categoryIds := categories.map Category.id, purpose := "Finds nothing.",
              isDefault := true, type := .lint, handler := fun _ _ => pure () }]
  categories

/-- A rule and a category that have different identifiers make a valid spec. -/
theorem isValid_spec {id : String} {categories : List Category}
    (hid : Identifier.isWellFormed .rule id)
    (hids : ∀ c ∈ categories, Identifier.isWellFormed .category c.id)
    (hnodup : (categories.map Category.id).Nodup) (hnot : id ∉ categories.map Category.id)
    (hplain : ∀ c ∈ categories, c.purpose ≠ "" ∧ c.deprecated = false ∧ c.replacementIds = []) :
    (spec id categories).IsValid := by
  have hpurpose : "Finds nothing." ≠ "" := by decide
  refine Spec.isValid_iff_registered.2 ⟨List.cons_ne_nil _ _, ?_, ?_, List.nodup_singleton _,
    hnodup, ?_, ?_, fun c hc => ?_, fun c hc => ?_⟩
  · exact List.forall_mem_singleton.2 (Identifier.isWellFormed_iff.1 hid)
  · exact List.forall_mem_map.2 fun c hc => Identifier.isWellFormed_iff.1 (hids c hc)
  · exact List.forall_mem_singleton.2 hnot
  · exact List.forall_mem_singleton.2
      ⟨hpurpose, hnodup, fun _ h => h, fun h => Bool.false_ne_true h.1, fun _ => rfl, nofun⟩
  · obtain ⟨hne, hdeprecated, hreplacements⟩ := hplain c hc
    refine ⟨hne, ?_⟩
    rw [hdeprecated, hreplacements]
    exact ⟨fun _ => rfl, nofun⟩
  · exact ⟨_, List.mem_singleton_self _, List.mem_map.2 ⟨c, hc, rfl⟩⟩

/-- A category with an identifier that a rule may have too. -/
def category : Category := { id := "SHARED_NAME", purpose := "Holds a rule." }

/-- A provider of a rule, and one of another rule in a category that has the identifier of the
first. Each is the provider of a client. -/
def locals : List (Provider × Client Unit) :=
  let first : Provider :=
    ⟨spec "SHARED_NAME" [], isValid_spec (by decide +kernel) nofun .nil nofun nofun, .inOrder⟩
  let second : Provider :=
    ⟨spec "OTHER_RULE" [category], isValid_spec (by decide +kernel) (by decide +kernel)
      (List.nodup_singleton _) (by decide) (by decide), .inOrder⟩
  [(first, .ofProvider first), (second, .ofProvider second)]

/-- The two clients are those of their providers. -/
theorem isLocal_locals : ∀ l ∈ locals, l.2.IsLocal l.1 := by
  intro l hl
  rcases List.mem_pair.1 hl with rfl | rfl <;> exact ⟨rfl, by decide, by decide⟩

end Clash

/-- Clients of two providers of valid specs list a rule and a category with one identifier. -/
theorem Client.together_listings_collide :
    (∀ l ∈ Clash.locals, l.2.IsLocal l.1) ∧
    ReadyAll Clash.locals ⟨{}, fun _ => { link := () }⟩ ∧
    ∃ rules categories,
      ((together Clash.locals).listRules.runIn ⟨{}, fun _ => { link := () }⟩).1 = .ok rules ∧
      ((together Clash.locals).listCategories.runIn ⟨{}, fun _ => { link := () }⟩).1
        = .ok categories ∧
      "SHARED_NAME" ∈ rules.map Rule.id ∧ "SHARED_NAME" ∈ categories.map Category.id := by
  have hlocals := Clash.isLocal_locals
  have hready : ReadyAll Clash.locals ⟨{}, fun _ => { link := () }⟩ :=
    readyAll_start Clash.locals (fun _ => ()) (by decide)
  obtain ⟨rules, hrules⟩ := (exists_list_together_iff hlocals .rules hready).2 (by decide)
  obtain ⟨categories, hcategories⟩ :=
    (exists_list_together_iff hlocals .categories hready).2 (by decide)
  refine ⟨hlocals, hready, rules, categories, hrules, hcategories, ?_, ?_⟩
  · exact (mem_list_together hlocals .rules hready hrules).2 ⟨0, by decide, by decide⟩
  · exact (mem_list_together hlocals .categories hready hcategories).2 ⟨1, by decide, by decide⟩

end SchemaCheck
