import Mathlib.Data.List.ProdSigma
import SchemaCheck.Proofs.Collector.Judging
import SchemaCheck.Proofs.Demo
import SchemaCheck.Proofs.Message.Depth
import SchemaCheck.Proofs.Spec.Registry

/-!
# More rules than one message can name

Two hundred and sixty rules take two pages to list, and a request for all of them takes two
messages. With these identifiers rules make a valid spec, in any order and whatever they do, if each
has a purpose and names the categories that are declared (`Crowd.isValid_of_perm`). In one such spec
the rules are declared from the last to the first, and each finds one thing on the request
(`Crowd.verdict_backward`).
-/

namespace SchemaCheck

/-- Rules that find one thing each find these things, in the same order. -/
theorem RuleSpec.findsAll_map {r : Request} {rules : List RuleSpec}
    {entry : RuleSpec → FindingEntry} (h : ∀ rule ∈ rules, rule.Finds r [entry rule]) :
    FindsAll r rules (rules.map entry) := by
  induction rules with
  | nil => exact .nil
  | cons rule rules ih =>
    obtain ⟨hrule, hrules⟩ := List.forall_mem_cons.1 h
    exact .cons hrule (ih hrules)

namespace Crowd

open Activity

/-! ## Identifiers -/

/-- The capital letters up to the given number. -/
def letters (n : Nat) : List Char := (List.range n).map fun i => Char.ofNat (65 + i)

/-- Identifiers of two hundred and sixty rules, which take two messages. -/
def ids : List String :=
  (letters 26 ×ˢ letters 10).map fun e => "RULE_" ++ String.ofList [e.1, e.2]

/-- The last two letters tell one identifier from another. -/
theorem nodup_ids : ids.Nodup := by
  have hall : (letters 26).Nodup := by decide
  have hten : (letters 10).Nodup := by decide
  refine List.Nodup.map (fun e f h => ?_) (hall.product hten)
  have hlist := String.ofList_injective ((String.append_right_inj "RULE_").1 h)
  simp only [List.cons.injEq, and_true] at hlist
  exact Prod.ext hlist.1 hlist.2

/-- All identifiers begin with the same letter. -/
theorem head?_of_mem_ids {id : String} (hid : id ∈ ids) : id.toList.head? = some 'R' := by
  obtain ⟨e, -, rfl⟩ := List.mem_map.1 hid
  rw [String.toList_append]
  rfl

/-- The identifiers are capital letters and underscores, as those of rules must be. -/
theorem formed_ids : ∀ id ∈ ids, Identifier.Formed .rule id := by
  intro id hid
  have hfirst := head?_of_mem_ids hid
  obtain ⟨⟨a, b⟩, hmem, rfl⟩ := List.mem_map.1 hid
  have hletters : ∀ c ∈ letters 26, IdKind.isLetter .rule c := List.all_eq_true.1 (by decide)
  have ha : IdKind.isLetter .rule a := hletters a (List.mem_product.1 hmem).1
  have hsub : letters 10 ⊆ letters 26 := by decide
  have hb : IdKind.isLetter .rule b := hletters b (hsub (List.mem_product.1 hmem).2)
  have hlist : ("RULE_" ++ String.ofList [a, b]).toList = ['R', 'U', 'L', 'E', '_'] ++ [a, b] := by
    simp
  have hprefix : ['R', 'U', 'L', 'E', '_'].all fun c => IdKind.isLetter .rule c || c == '_' := by
    decide
  refine ⟨?_, ?_, ⟨'R', hfirst, by decide⟩, ⟨b, ?_, hb⟩⟩
  · rw [String.utf8ByteSize_append]
    exact Nat.le_add_right_of_le (by decide)
  · rw [hlist]
    refine List.forall_mem_append.2 ⟨fun c hc => ?_, ?_⟩
    · have hc := List.all_eq_true.1 hprefix c hc
      rwa [Bool.or_eq_true, beq_iff_eq] at hc
    · exact List.forall_mem_cons.2 ⟨.inl ha, List.forall_mem_singleton.2 (.inl hb)⟩
  · rw [hlist]
    rfl

/-- There are as many identifiers as pairs of letters. -/
theorem length_ids : ids.length = 260 := by
  rw [ids, List.length_map, List.length_product]
  rfl

/-! ## A request for all of them -/

/-- A request for all rules of the crowd. -/
def request : Request where
  files := Demo.request.files
  againstFiles := []
  options := Demo.request.options
  ruleIds := Text.sortedUnique ids
  files_ne_nil := Demo.request.files_ne_nil
  names_distinct := Demo.request.names_distinct
  against_distinct := Demo.request.against_distinct
  ids_sorted := Text.pairwise_sortedUnique ids
  ids_valid id hid := Identifier.isWellFormed_iff.2 (formed_ids id (Text.mem_sortedUnique.1 hid))

/-- The request names each rule once. -/
theorem length_ruleIds : request.ruleIds.length = 260 := by
  have hnodup : request.ruleIds.Nodup := request.ids_sorted.imp Std.ne_of_lt
  have hperm : request.ruleIds.Perm ids :=
    (List.perm_ext_iff_of_nodup hnodup nodup_ids).2 fun _ => Text.mem_sortedUnique
  rw [hperm.length_eq, length_ids]

/-- A request that names no rule would select those that are default. -/
theorem ruleIds_ne_nil : request.ruleIds ≠ [] := by
  rw [← List.length_pos_iff, length_ruleIds]
  decide

/-- A message for them all is nested as deep as one for none. -/
theorem depth_request :
    (CheckMessage.codec.encode (request.message request.ruleIds)).depth ≤ 127 := by
  rw [request.depth_message_eq request.ruleIds []]
  decide +kernel

/-! ## Specs with these rules -/

/-- Rules with these identifiers make a valid spec when each has a purpose and names the categories
that are declared, which are those of the demonstration rules or some of them, and none is
deprecated. -/
theorem isValid_of_perm {s : Spec} (hids : s.ruleIds.Perm ids)
    (hcategories : s.categories.Sublist Demo.spec.categories)
    (hrules : ∀ e ∈ s.ruleEntries, e.purpose ≠ "" ∧ e.categoryIds = s.categoryIds ∧
      e.deprecated = false ∧ e.replacementIds = []) : s.IsValid := by
  have hdemo : Demo.spec.Registered := Spec.isValid_iff_registered.1 Demo.spec_isValid
  have hdeclared : s.categoryIds.Sublist Demo.spec.categoryIds := hcategories.map Category.id
  have hnodup : s.categoryIds.Nodup := hdemo.categoryIds_nodup.sublist hdeclared
  refine Spec.isValid_iff_registered.2
    { rules_ne_nil := fun hnil => ?_
      ruleIds_formed := fun id hid => formed_ids id (hids.mem_iff.1 hid)
      categoryIds_formed := fun id hid => hdemo.categoryIds_formed id (hdeclared.subset hid)
      ruleIds_nodup := hids.nodup_iff.2 nodup_ids
      categoryIds_nodup := hnodup
      ids_disjoint := fun id hid hcategory => ?_
      rules := fun e he => ?_
      categories := fun c hc => ?_
      referenced := fun c hc => ?_ }
  · have hlength := hids.length_eq
    rw [Spec.ruleIds, hnil, length_ids] at hlength
    cases hlength
  -- no category begins as the rules do
  · have hother : ∀ id ∈ Demo.spec.categoryIds, id.toList.head? ≠ some 'R' := by decide
    exact hother id (hdeclared.subset hcategory) (head?_of_mem_ids (hids.mem_iff.1 hid))
  · obtain ⟨hpurpose, hnamed, hdeprecated, hreplacements⟩ := hrules e he
    refine ⟨hpurpose, hnamed ▸ hnodup, fun id hid => hnamed ▸ hid, fun h => ?_,
      fun _ => hreplacements, fun id hid => ?_⟩
    · rw [hdeprecated] at h
      exact Bool.false_ne_true h.1
    · rw [hreplacements] at hid
      exact absurd hid List.not_mem_nil
  · have hc : c ∈ Demo.spec.categories := hcategories.subset hc
    have hnone : ∀ c ∈ Demo.spec.categories, c.replacementIds = [] := by decide
    refine ⟨(hdemo.categories c hc).purpose, fun _ => hnone c hc, fun id hid => ?_⟩
    rw [hnone c hc] at hid
    exact absurd hid List.not_mem_nil
  · have hpos : 0 < s.ruleEntries.length := by
      have hlength := hids.length_eq
      rw [length_ids, Spec.ruleIds, List.length_map] at hlength
      rw [Spec.ruleEntries, List.length_map, hlength]
      decide
    obtain ⟨e, he⟩ := List.exists_mem_of_length_pos hpos
    obtain ⟨-, hnamed, -⟩ := hrules e he
    exact ⟨e, he, hnamed ▸ List.mem_map_of_mem hc⟩

/-- Where each rule of the crowd points, when they all find something. -/
def seen : Draft :=
  { message := "Seen.", current := { fileName := some "a.proto", path := some [12] } }

/-- Rules that are declared from the last to the first, and each of which names both categories,
which are not in order either. Each finds one thing in the file of the request. -/
def backward : Spec where
  rules := ids.reverse.map fun id =>
    { id, categoryIds := Demo.spec.categoryIds, purpose := "Sees the file.", type := .lint,
      handler := fun _ _ => .give seen }
  categories := Demo.spec.categories

/-- The last identifier is declared first. -/
theorem ruleIds_backward : backward.ruleIds = ids.reverse := by
  rw [Spec.ruleIds, backward, List.map_map]
  exact List.map_id' _

/-- There are more rules than one page has room for. -/
theorem length_rules_backward : backward.rules.length = 260 := by
  rw [backward, List.length_map, List.length_reverse, length_ids]

/-- The rules that are declared backward make a valid spec. -/
theorem isValid_backward : backward.IsValid := by
  refine isValid_of_perm (ruleIds_backward ▸ List.reverse_perm ids) (.refl _) fun e he => ?_
  obtain ⟨rule, hrule, rfl⟩ := List.mem_map.1 he
  obtain ⟨id, -, rfl⟩ := List.mem_map.1 hrule
  have hpurpose : "Sees the file." ≠ "" := by decide
  exact ⟨hpurpose, rfl, rfl, rfl⟩

/-- A provider of the rules that are declared backward, which runs them in this order. -/
def backwardProvider : Provider := ⟨backward, isValid_backward, .inOrder⟩

/-- Each rule that is declared backward hands in the same, whatever it is asked. -/
theorem handler_backward {rule : RuleSpec} (hrule : rule ∈ backward.rules) :
    rule.handler = fun _ _ => .give seen := by
  obtain ⟨id, -, rfl⟩ := List.mem_map.1 hrule
  rfl

/-- The rules that are declared backward look at files and options only. -/
theorem inputOnly_backward : ∀ rule ∈ backward.rules, rule.handler.InputOnly := by
  intro rule hrule
  rw [handler_backward hrule]
  exact Handler.inputOnly_of (fun _ _ _ _ => rfl) fun _ _ => determined_give seen

/-- The rules that are declared backward leave the context alone. -/
theorem calm_backward : ∀ rule ∈ backward.rules, rule.handler.Calm := by
  intro rule hrule
  rw [handler_backward hrule]
  exact fun _ _ => calm_give seen

/-- What all rules hand in is sound on the request. -/
theorem sound_seen {id : String} (hid : id ∈ ids) : seen.Sound request id where
  rule := Identifier.isWellFormed_iff.2 (formed_ids id hid)
  current := by
    refine ⟨fun h => absurd rfl h, fun _ => Option.some_ne_none _, ?_⟩
    rintro name (h | ⟨path, h⟩)
    · cases h
      exact ⟨_, List.mem_cons_self, rfl⟩
    · cases h
  against := Target.sound_empty _

/-- The rules that are declared backward are those that the request names. -/
theorem mem_ruleIds_backward {id : String} :
    id ∈ backward.ruleIds ↔ id ∈ request.ruleIds := by
  rw [ruleIds_backward, List.mem_reverse]
  exact Text.mem_sortedUnique.symm

/-- What the rules that are declared backward find, each in its turn. -/
def entries : List FindingEntry :=
  (backward.chosen request.ruleIds).map fun rule => seen.entry rule.id

/-- There is one finding of each rule. -/
theorem map_ruleId_perm : (entries.map FindingEntry.ruleId).Perm request.ruleIds := by
  rw [entries, List.map_map]
  exact Spec.map_id_chosen_perm isValid_backward.nodup_ruleIds
    (request.ids_sorted.imp Std.ne_of_lt) ruleIds_ne_nil fun _ => mem_ruleIds_backward.2

/-- The rules that are declared backward are all known, and each finds one thing on the request. -/
theorem verdict_backward :
    backward.Verdict request request.ruleIds (some (FindingEntry.sort entries)) := by
  refine .found (fun _ => mem_ruleIds_backward.2)
    (RuleSpec.findsAll_map fun rule hrule => ?_)
  have hrule : rule ∈ backward.rules := Spec.mem_of_mem_chosen hrule
  have hid : rule.id ∈ ids :=
    Text.mem_sortedUnique.1 (mem_ruleIds_backward.1 (List.mem_map_of_mem hrule))
  refine ⟨request, [seen], .refl request, ?_, fun d hd => ?_, rfl⟩
  · rw [handler_backward hrule]
    exact .emit (.done _)
  · obtain rfl := List.mem_singleton.1 hd
    exact Request.admits_iff_sound.2 (sound_seen hid)

end Crowd

end SchemaCheck
