import Mathlib.Data.List.Basic
import SchemaCheck.Proofs.Call.Context
import SchemaCheck.Proofs.Collector.Adding
import SchemaCheck.Proofs.Request.Messages

/-!
# What a provider finds

The verdict on a request is what the rules of a spec find, put together and sorted, or that there is
none (`Spec.Verdict`). It says nothing of the order in which rules run, of the context, or of the
messages in which the rules are asked for. A check that stays live gives the verdict
(`Provider.check_verdict`); and when the code of all rules looks at files and options only
(`Handler.InputOnly`), there is one verdict for each choice of rules (`Spec.Verdict.unique`).
-/

namespace SchemaCheck

open Activity

/-- Whether two requests differ in their rules at most. -/
structure Request.SameInputs (r s : Request) : Prop where
  files : r.files = s.files
  againstFiles : r.againstFiles = s.againstFiles
  options : r.options = s.options

namespace Request.SameInputs

variable {r s t : Request}

/-- A request has the inputs that it has. -/
@[refl] theorem refl (r : Request) : r.SameInputs r := ⟨rfl, rfl, rfl⟩

/-- Requests have the same inputs either way round. -/
theorem symm (h : r.SameInputs s) : s.SameInputs r :=
  ⟨h.files.symm, h.againstFiles.symm, h.options.symm⟩

/-- Requests with the inputs of one request have the same inputs. -/
theorem trans (h : r.SameInputs s) (k : s.SameInputs t) : r.SameInputs t :=
  ⟨h.files.trans k.files, h.againstFiles.trans k.againstFiles, h.options.trans k.options⟩

/-- Requests about the same files admit the same drafts. -/
theorem admits_iff (h : r.SameInputs s) {e : String × Draft} : r.Admits e ↔ s.Admits e := by
  unfold Admits
  rw [h.files, h.againstFiles]

end Request.SameInputs

/-- Whether the code of a rule looks at the files and options of a request only: what it hands out
and how it ends in a live context does not depend on the rules of the request, nor on the context.
-/
def Handler.InputOnly (h : Handler) : Prop :=
  ∀ (id : String) (r s : Request) (drafts drafts' : List Draft) (result result' : Result Unit),
    r.SameInputs s → (h id r).Yields drafts result → (h id s).Yields drafts' result' →
      drafts = drafts' ∧ result = result'

namespace RuleSpec

variable {rule : RuleSpec} {r s : Request} {es fs : List FindingEntry}

/-- On the files and options of a request the rule succeeds, and its findings say this. -/
def Finds (rule : RuleSpec) (r : Request) (es : List FindingEntry) : Prop :=
  ∃ (s : Request) (drafts : List Draft), s.SameInputs r ∧
    (rule.handler rule.id s).Yields drafts (.ok ()) ∧ (∀ d ∈ drafts, s.Admits (rule.id, d)) ∧
    es = drafts.map (Draft.entry rule.id)

/-- On the files and options of a request the rule ends with a fault, or hands in a draft that the
request does not admit. -/
def Fails (rule : RuleSpec) (r : Request) : Prop :=
  ∃ (s : Request) (drafts : List Draft) (result : Result Unit), s.SameInputs r ∧
    (rule.handler rule.id s).Yields drafts result ∧
    ¬ (result = .ok () ∧ ∀ d ∈ drafts, s.Admits (rule.id, d))

/-- A rule finds the same on the same inputs. -/
theorem Finds.congr (h : rule.Finds r es) (hrs : r.SameInputs s) : rule.Finds s es := by
  obtain ⟨t, drafts, ht, hy⟩ := h
  exact ⟨t, drafts, ht.trans hrs, hy⟩

/-- A rule that fails does so on the same inputs. -/
theorem Fails.congr (h : rule.Fails r) (hrs : r.SameInputs s) : rule.Fails s := by
  obtain ⟨t, drafts, result, ht, hy⟩ := h
  exact ⟨t, drafts, result, ht.trans hrs, hy⟩

/-- What a rule finds depends on nothing else. -/
theorem Finds.unique (hrule : rule.handler.InputOnly) (h : rule.Finds r es)
    (h' : rule.Finds r fs) : es = fs := by
  obtain ⟨s, drafts, hs, hy, -, rfl⟩ := h
  obtain ⟨t, drafts', ht, hy', -, rfl⟩ := h'
  obtain ⟨rfl, -⟩ := hrule rule.id s t drafts drafts' _ _ (hs.trans ht.symm) hy hy'
  rfl

/-- A rule that succeeds does not fail. -/
theorem Finds.not_fails (hrule : rule.handler.InputOnly) (h : rule.Finds r es) :
    ¬ rule.Fails r := by
  rintro ⟨t, drafts', result, ht, hy', hnot⟩
  obtain ⟨s, drafts, hs, hy, hadm, -⟩ := h
  obtain ⟨rfl, rfl⟩ := hrule rule.id s t drafts drafts' _ _ (hs.trans ht.symm) hy hy'
  have hst : s.SameInputs t := hs.trans ht.symm
  exact hnot ⟨rfl, fun d hd => hst.admits_iff.1 (hadm d hd)⟩

/-- What a rule found the request admits again. -/
theorem Finds.admits (h : rule.Finds r es) :
    ∀ e ∈ es, r.Admits (e.ruleId, Draft.ofEntry e) := by
  obtain ⟨s, drafts, hs, -, hadm, rfl⟩ := h
  intro e he
  obtain ⟨d, hd, rfl⟩ := List.mem_map.1 he
  exact hs.admits_iff.1 (hadm d hd).ofEntry

/-- What rules find, one after another. -/
inductive FindsAll (r : Request) : List RuleSpec → List FindingEntry → Prop where
  | nil : FindsAll r [] []
  | cons {rule : RuleSpec} {rules : List RuleSpec} {es fs : List FindingEntry} :
      rule.Finds r es → FindsAll r rules fs → FindsAll r (rule :: rules) (es ++ fs)

namespace FindsAll

variable {rules others : List RuleSpec}

/-- Rules find the same on the same inputs. -/
theorem congr (h : FindsAll r rules es) (hrs : r.SameInputs s) : FindsAll s rules es := by
  induction h with
  | nil => exact .nil
  | cons hes _ ih => exact .cons (hes.congr hrs) ih

/-- Rules and then others find what the first do and then what the others do. -/
theorem append (h : FindsAll r rules es) (h' : FindsAll r others fs) :
    FindsAll r (rules ++ others) (es ++ fs) := by
  induction h with
  | nil => exact h'
  | cons hes _ ih =>
    rw [List.append_assoc]
    exact .cons hes ih

/-- In another order the rules find the same, in another order. -/
theorem perm (h : FindsAll r rules es) (hperm : rules.Perm others) :
    ∃ fs, FindsAll r others fs ∧ fs.Perm es := by
  induction hperm generalizing es with
  | nil => exact ⟨es, h, .refl es⟩
  | cons rule _ ih =>
    cases h with
    | @cons _ _ first rest hfirst hrest =>
      obtain ⟨fs, hfs, hp⟩ := ih hrest
      exact ⟨first ++ fs, .cons hfirst hfs, hp.append_left first⟩
  | swap a b rules =>
    cases h with
    | @cons _ _ first rest hfirst hrest =>
      cases hrest with
      | @cons _ _ second rest hsecond hrest =>
        exact ⟨second ++ (first ++ rest), .cons hsecond (.cons hfirst hrest),
          List.perm_append_comm_assoc ..⟩
  | trans _ _ ih ih' =>
    obtain ⟨fs, hfs, hp⟩ := ih h
    obtain ⟨gs, hgs, hp'⟩ := ih' hfs
    exact ⟨gs, hgs, hp'.trans hp⟩

/-- What rules find depends on nothing else. -/
theorem unique (hrules : ∀ rule ∈ rules, rule.handler.InputOnly) (h : FindsAll r rules es)
    (h' : FindsAll r rules fs) : es = fs := by
  induction h generalizing fs with
  | nil =>
    cases h'
    rfl
  | cons hes _ ih =>
    cases h' with
    | cons hfs hrest =>
      rw [hes.unique (hrules _ List.mem_cons_self) hfs,
        ih (fun rule h => hrules rule (List.mem_cons_of_mem _ h)) hrest]

/-- None of the rules fails. -/
theorem not_fails (hrules : ∀ rule ∈ rules, rule.handler.InputOnly) (h : FindsAll r rules es)
    {rule : RuleSpec} (hrule : rule ∈ rules) : ¬ rule.Fails r := by
  induction h with
  | nil => cases hrule
  | cons hes _ ih =>
    rcases List.mem_cons.1 hrule with rfl | hrest
    · exact hes.not_fails (hrules _ List.mem_cons_self)
    · exact ih (fun rule h => hrules rule (List.mem_cons_of_mem _ h)) hrest

/-- What rules found the request admits again. -/
theorem admits (h : FindsAll r rules es) : ∀ e ∈ es, r.Admits (e.ruleId, Draft.ofEntry e) := by
  induction h with
  | nil => simp
  | cons hes _ ih =>
    intro e he
    rcases List.mem_append.1 he with he | he
    · exact hes.admits e he
    · exact ih e he

end FindsAll

end RuleSpec

namespace Spec

variable {spec : Spec} {r s : Request} {ids : List String}

/-- The rules that run for the rules named in a request, if they are all known. -/
def chosen (spec : Spec) (ids : List String) : List RuleSpec :=
  spec.rules.filter fun rule => if ids.isEmpty then rule.isDefault else ids.contains rule.id

/-- Only declared rules are chosen. -/
theorem mem_of_mem_chosen {rule : RuleSpec} (h : rule ∈ spec.chosen ids) : rule ∈ spec.rules :=
  (List.mem_filter.1 h).1

/-- Rules that are named are chosen just when they are declared. -/
theorem mem_chosen_of_ne_nil (hne : ids ≠ []) {rule : RuleSpec} :
    rule ∈ spec.chosen ids ↔ rule ∈ spec.rules ∧ rule.id ∈ ids := by
  rw [chosen, List.mem_filter]
  simp only [List.isEmpty_eq_false_iff.2 hne, Bool.false_eq_true, if_false,
    List.contains_iff_mem]

/-- The rules that are chosen for declared identifiers have these identifiers. -/
theorem map_id_chosen_perm (hspec : spec.ruleIds.Nodup) (hnodup : ids.Nodup) (hne : ids ≠ [])
    (hknown : ∀ id ∈ ids, id ∈ spec.ruleIds) :
    ((spec.chosen ids).map fun rule => rule.id).Perm ids := by
  have hsub : ((spec.chosen ids).map fun rule => rule.id).Sublist spec.ruleIds :=
    List.Sublist.map _ List.filter_sublist
  refine (List.perm_ext_iff_of_nodup (hspec.sublist hsub) hnodup).2 fun id => ?_
  simp only [List.mem_map, mem_chosen_of_ne_nil hne]
  constructor
  · rintro ⟨rule, ⟨-, hid⟩, rfl⟩
    exact hid
  · intro hid
    obtain ⟨rule, hrule, rfl⟩ := List.mem_map.1 (hknown id hid)
    exact ⟨rule, ⟨hrule, hid⟩, rfl⟩

/-- Neither order nor repetition of the rules that are named matters to what is chosen. -/
theorem chosen_sortedUnique (spec : Spec) (ids : List String) :
    spec.chosen (Text.sortedUnique ids) = spec.chosen ids := by
  have hnil : Text.sortedUnique ids = [] ↔ ids = [] := by
    simp only [List.eq_nil_iff_forall_not_mem, Text.mem_sortedUnique]
  have hempty : (Text.sortedUnique ids).isEmpty = ids.isEmpty := by
    rw [Bool.eq_iff_iff, List.isEmpty_iff, List.isEmpty_iff, hnil]
  have hcontains : ∀ id, (Text.sortedUnique ids).contains id = ids.contains id := fun id => by
    rw [Bool.eq_iff_iff, List.contains_iff_mem, List.contains_iff_mem, Text.mem_sortedUnique]
  simp only [chosen, hempty, hcontains]

/-- A list whose members satisfy one of two tests, but not both, falls into two. -/
theorem filter_or_perm {α : Type} {p q : α → Bool} {as : List α}
    (h : ∀ a ∈ as, p a = true → q a = false) :
    (as.filter fun a => p a || q a).Perm (as.filter p ++ as.filter q) := by
  induction as with
  | nil => exact .nil
  | cons a as ih =>
    have ih := ih fun b hb => h b (List.mem_cons_of_mem _ hb)
    cases hp : p a with
    | true =>
      have hq := h a List.mem_cons_self hp
      simp only [List.filter_cons, hp, hq, Bool.or_false, if_true, Bool.false_eq_true, if_false]
      exact ih.cons a
    | false =>
      cases hq : q a with
      | true =>
        simp only [List.filter_cons, hp, hq, Bool.or_true, if_true, Bool.false_eq_true, if_false]
        exact (ih.cons a).trans List.perm_middle.symm
      | false =>
        simp only [List.filter_cons, hp, hq, Bool.or_false, Bool.false_eq_true, if_false]
        exact ih

/-- Rules that are named part by part are chosen part by part. -/
theorem filter_flatten_perm (rules : List RuleSpec) (parts : List (List String))
    (h : parts.flatten.Nodup) :
    (rules.filter fun rule => parts.flatten.contains rule.id).Perm
      (parts.flatMap fun ids => rules.filter fun rule => ids.contains rule.id) := by
  induction parts with
  | nil => simp
  | cons ids parts ih =>
    rw [List.flatten_cons] at h
    obtain ⟨-, hrest, hdisjoint⟩ := List.nodup_append.1 h
    have hor : (fun rule : RuleSpec => (ids ++ parts.flatten).contains rule.id)
        = fun rule => ids.contains rule.id || parts.flatten.contains rule.id := by
      funext rule
      simp
    rw [List.flatten_cons, hor, List.flatMap_cons]
    refine (filter_or_perm fun rule _ hid => ?_).trans ((ih hrest).append_left _)
    have hmem : rule.id ∈ ids := by simpa using hid
    have hnot : rule.id ∉ parts.flatten := fun hin => hdisjoint _ hmem _ hin rfl
    simpa using hnot

/-- The rules that a request chooses are those that its messages choose. -/
theorem chosen_parts_perm (spec : Spec) (r : Request) :
    (spec.chosen r.ruleIds).Perm (r.parts.flatMap spec.chosen) := by
  rcases r.parts_cases with ⟨hids, hparts⟩ | ⟨hids, hparts⟩
  · rw [hids, hparts]
    simp
  · have hchosen : ∀ ids : List String, ids ≠ [] →
        spec.chosen ids = spec.rules.filter fun rule => ids.contains rule.id := by
      intro ids hne
      simp only [chosen, List.isEmpty_eq_false_iff.2 hne, Bool.false_eq_true, if_false]
    have hmap : r.parts.flatMap spec.chosen
        = r.parts.flatMap fun ids => spec.rules.filter fun rule => ids.contains rule.id :=
      List.flatMap_congr fun ids h => hchosen ids (hparts ids h)
    have hnodup : r.parts.flatten.Nodup := by
      rw [r.flatten_parts]
      exact r.ids_sorted.imp Std.ne_of_lt
    rw [hmap, hchosen _ hids, ← r.flatten_parts]
    exact filter_flatten_perm spec.rules r.parts hnodup

/-- What the chosen rules find on the files and options of a request, or nothing when a rule is
unknown or fails. -/
inductive Verdict (spec : Spec) (r : Request) (ids : List String) :
    Option (List FindingEntry) → Prop where
  | found {es : List FindingEntry} : (∀ id ∈ ids, id ∈ spec.ruleIds) →
      RuleSpec.FindsAll r (spec.chosen ids) es →
        Verdict spec r ids (some (FindingEntry.sort es))
  | unknown {id : String} : id ∈ ids → id ∉ spec.ruleIds → Verdict spec r ids none
  | fails {rule : RuleSpec} : rule ∈ spec.chosen ids → rule.Fails r → Verdict spec r ids none

namespace Verdict

variable {v w : Option (List FindingEntry)}

/-- What a verdict finds the chosen rules find, and they are all known. -/
theorem exists_findsAll {es : List FindingEntry} (h : spec.Verdict r ids (some es)) :
    (∀ id ∈ ids, id ∈ spec.ruleIds) ∧
      ∃ fs, RuleSpec.FindsAll r (spec.chosen ids) fs ∧ es = FindingEntry.sort fs := by
  cases h with
  | found hids hfound => exact ⟨hids, _, hfound, rfl⟩

/-- The verdicts on the messages of a request make the verdict on the request. -/
theorem of_parts {es : List FindingEntry} (hids : ∀ ids ∈ r.parts, ∀ id ∈ ids, id ∈ spec.ruleIds)
    (hfound : RuleSpec.FindsAll r (r.parts.flatMap spec.chosen) es) :
    spec.Verdict r r.ruleIds (some (FindingEntry.sort es)) := by
  obtain ⟨fs, hfs, hperm⟩ := hfound.perm (chosen_parts_perm spec r).symm
  rw [FindingEntry.sort_eq_of_perm hperm.symm]
  refine .found (fun id hid => ?_) hfs
  rw [← r.flatten_parts] at hid
  obtain ⟨ids, hpart, hid⟩ := List.mem_flatten.1 hid
  exact hids ids hpart id hid

/-- No verdict on one of the messages, no verdict on the request. -/
theorem none_of_part {ids : List String} (hpart : ids ∈ r.parts) (h : spec.Verdict r ids none) :
    spec.Verdict r r.ruleIds none := by
  cases h with
  | unknown hid hnot => exact .unknown ((Request.sublist_of_mem_parts hpart).subset hid) hnot
  | fails hrule hfails =>
    refine .fails ((chosen_parts_perm spec r).mem_iff.2 ?_) hfails
    exact List.mem_flatMap.2 ⟨ids, hpart, hrule⟩

/-- What is found is not withheld. -/
theorem ne_none {es : List FindingEntry} (hinput : ∀ rule ∈ spec.rules, rule.handler.InputOnly)
    (hids : ∀ id ∈ ids, id ∈ spec.ruleIds) (hfound : RuleSpec.FindsAll r (spec.chosen ids) es) :
    ¬ spec.Verdict r ids none := by
  intro h
  cases h with
  | unknown hid hnot => exact hnot (hids _ hid)
  | fails hrule hf =>
    exact hfound.not_fails (fun rule h => hinput rule (mem_of_mem_chosen h)) hrule hf

/-- A spec whose rules all look at files and options only has one verdict on a choice of rules. -/
theorem unique (hinput : ∀ rule ∈ spec.rules, rule.handler.InputOnly)
    (hv : spec.Verdict r ids v) (hw : spec.Verdict r ids w) : v = w := by
  cases v with
  | none =>
    cases hw with
    | found hids hfound => exact absurd hv (ne_none hinput hids hfound)
    | unknown _ _ => rfl
    | fails _ _ => rfl
  | some _ =>
    cases hv with
    | found hids hfound =>
      cases hw with
      | found _ hfound' =>
        rw [hfound.unique (fun rule h => hinput rule (mem_of_mem_chosen h)) hfound']
      | unknown hid hnot => exact absurd (hids _ hid) hnot
      | fails hrule hf => exact absurd (.fails hrule hf) (ne_none hinput hids hfound)

end Verdict

end Spec

/-! ## Running rules -/

section Running

variable {r : Request} {rules : List RuleSpec} {log : List (String × Draft)}
  {results : List (Result Unit)}

/-- Rules that succeed and whose drafts are admitted find what the drafts say. -/
theorem findsAll_of_yieldsAll (h : YieldsAll (rules.map (Provider.activity r)) log results)
    (hok : ∀ result ∈ results, result = .ok ()) (hadm : ∀ e ∈ log, r.Admits e) :
    RuleSpec.FindsAll r rules (log.map fun e => e.2.entry e.1) := by
  induction rules generalizing log results with
  | nil =>
    cases h
    exact .nil
  | cons rule rules ih =>
    rw [List.map_cons] at h
    cases h with
    | @cons _ _ _ drafts log result results hy hrest =>
      obtain rfl : result = .ok () := hok result List.mem_cons_self
      have hrules := ih hrest (fun x hx => hok x (List.mem_cons_of_mem _ hx))
        fun e he => hadm e (List.mem_append_right _ he)
      have hdrafts : ∀ d ∈ drafts, r.Admits (rule.id, d) := fun d hd =>
        hadm _ (List.mem_append_left _ (List.mem_map.2 ⟨d, hd, rfl⟩))
      rw [List.map_append, List.map_map]
      exact .cons ⟨r, drafts, .refl r, yields_check_bind.1 hy, hdrafts, rfl⟩ hrules

/-- A draft that is not admitted comes from a rule that fails. -/
theorem exists_fails (h : YieldsAll (rules.map (Provider.activity r)) log results)
    {e : String × Draft} (he : e ∈ log) (hnot : ¬ r.Admits e) : ∃ rule ∈ rules, rule.Fails r := by
  induction rules generalizing log results with
  | nil =>
    cases h
    cases he
  | cons rule rules ih =>
    rw [List.map_cons] at h
    cases h with
    | @cons _ _ _ drafts log result results hy hrest =>
      rcases List.mem_append.1 he with he | he
      · obtain ⟨d, hd, rfl⟩ := List.mem_map.1 he
        refine ⟨rule, List.mem_cons_self, r, drafts, result, .refl r, yields_check_bind.1 hy, ?_⟩
        exact fun hall => hnot (hall.2 d hd)
      · obtain ⟨rule', hmem, hfails⟩ := ih hrest he
        exact ⟨rule', List.mem_cons_of_mem _ hmem, hfails⟩

end Running

namespace Provider

variable {p : Provider} {r : Request}

/-- Whichever way rules run, each does what it does by itself. -/
theorem runAll_outcome (rules : List RuleSpec) (c : CallContext)
    (hlive : (p.runAll r rules c).2.1.isLive) :
    Outcome collect (rules.map (activity r)) (Collector.ofRequest r) (p.runAll r rules c).1
      (p.runAll r rules c).2.2 := by
  unfold runAll at hlive ⊢
  cases hexec : p.execution with
  | inOrder =>
    rw [hexec] at hlive
    exact runInOrder_yields _ _ _ _ hlive
  | sideBySide schedule =>
    rw [hexec] at hlive
    exact runSideBySide_yields _ _ _ _ _ hlive

/-- A run ends with what all rules find, or one of them fails. -/
theorem conclude_cases {rules : List RuleSpec} {run : Result Unit × CallContext × Collector}
    (h : Outcome collect (rules.map (activity r)) (Collector.ofRequest r) run.1 run.2.2) :
    (∃ response es, (conclude run).1 = .ok response ∧ RuleSpec.FindsAll r rules es ∧
      response.findings.map Finding.entry = FindingEntry.sort es) ∨
    (∃ e, (conclude run).1 = .error e) ∧ ∃ rule ∈ rules, rule.Fails r := by
  obtain ⟨result, d, collector⟩ := run
  cases h with
  | @error tag a drafts e _ hmem hy =>
    obtain ⟨rule, hrule, heq⟩ := List.mem_map.1 hmem
    cases heq
    refine .inr ⟨⟨e, rfl⟩, rule, hrule, r, drafts, .error e, .refl r, yields_check_bind.1 hy, ?_⟩
    simp
  | @ok log taken results hlog hok hperm =>
    show (∃ response found, ((Collector.ofRequest r).addAll taken).finish.1 = .ok response ∧ _) ∨
      (∃ e, ((Collector.ofRequest r).addAll taken).finish.1 = .error e) ∧ _
    cases hfinish : ((Collector.ofRequest r).addAll taken).finish.1 with
    | ok response =>
      have htaken := (Collector.finish_addAll_eq_ok_iff.1 hfinish).1
      have hfound := findsAll_of_yieldsAll hlog hok fun e he => htaken e (hperm.mem_iff.2 he)
      refine .inl ⟨response, _, rfl, hfound, ?_⟩
      rw [Collector.entries_of_finish hfinish]
      exact FindingEntry.sort_eq_of_perm (hperm.map _)
    | error fault =>
      have hnot : ¬ ∀ e ∈ taken, r.Admits e := fun hall => by
        have hok' := Collector.finish_addAll_eq_ok_iff.2 ⟨hall, rfl⟩
        rw [hfinish] at hok'
        cases hok'
      push Not at hnot
      obtain ⟨e, he, hadm⟩ := hnot
      exact .inr ⟨⟨fault, rfl⟩, exists_fails hlog (hperm.mem_iff.1 he) hadm⟩

/-- Rules that run in a call that stays live give what all find, or one of them fails. -/
theorem runRules_cases (rules : List RuleSpec) (c : CallContext)
    (hlive : ((p.runRules r rules).run c).2.isLive) :
    (∃ response es, ((p.runRules r rules).run c).1 = .ok response ∧
      RuleSpec.FindsAll r rules es ∧
      response.findings.map Finding.entry = FindingEntry.sort es) ∨
    (∃ e, ((p.runRules r rules).run c).1 = .error e) ∧ ∃ rule ∈ rules, rule.Fails r := by
  rw [runRules_run] at hlive ⊢
  rw [conclude_context] at hlive
  exact conclude_cases (runAll_outcome rules c hlive)

/-- A provider chooses the rules that are named, or refuses all that it does not know. -/
theorem select_eq (p : Provider) (ids : List String) :
    p.select ids = match ids.filter fun id => !p.spec.ruleIds.contains id with
      | [] => .ok (p.spec.chosen ids)
      | unknown => .error (.unknownRules unknown) := by
  unfold select Spec.chosen
  cases ids with
  | nil => rfl
  | cons id ids => rfl

/-- A provider chooses the rules that are named, or refuses rules that it does not know. -/
theorem select_cases (p : Provider) (ids : List String) :
    ((∀ id ∈ ids, id ∈ p.spec.ruleIds) ∧ p.select ids = .ok (p.spec.chosen ids)) ∨
    ((∃ id ∈ ids, id ∉ p.spec.ruleIds) ∧ ∃ e, p.select ids = .error e) := by
  rw [select_eq]
  cases hunknown : ids.filter fun id => !p.spec.ruleIds.contains id with
  | nil =>
    refine .inl ⟨fun id hid => ?_, rfl⟩
    have := List.filter_eq_nil_iff.1 hunknown id hid
    simpa using this
  | cons id rest =>
    have hid : id ∈ ids.filter fun id => !p.spec.ruleIds.contains id := by
      rw [hunknown]
      exact List.mem_cons_self
    obtain ⟨hmem, hnot⟩ := List.mem_filter.1 hid
    exact .inr ⟨⟨id, hmem, by simpa using hnot⟩, _, rfl⟩

/-- A check without a hook in a live context: rules are chosen, and run on the request with the
rules that the message names. -/
theorem check_run (p : Provider) (hp : p.spec.before = none) {ids : List String}
    (hs : ids.Pairwise (· < ·)) (hv : ∀ id ∈ ids, Identifier.isWellFormed .rule id)
    {c : CallContext} (hc : c.isLive) :
    (p.check (r.message ids)).run c = match p.select ids with
      | .error e => (.error e, c)
      | .ok rules =>
        let run := (p.runRules (r.withIds ids hs hv) rules).run c
        (run.1.map Response.reply, run.2) := by
  have hcheck : c.check = .ok () := (CallContext.check_eq_ok_iff c).2 hc
  rw [check, Served.run_bind, Served.run_check, hcheck]
  simp only
  rw [Served.run_bind, Served.run_ofResult, Request.ofMessage_message hs hv]
  simp only
  rw [Served.run_bind, Served.run_ofResult]
  have hids : (r.withIds ids hs hv).ruleIds = ids := rfl
  rw [hids]
  cases p.select ids with
  | error e => rfl
  | ok rules =>
    simp only
    have hprepare : p.prepare (r.withIds ids hs hv) = pure (r.withIds ids hs hv) := by
      rw [prepare, hp]
    rw [hprepare, Served.run_bind, Served.run_pure]
    simp only
    rw [Served.run_bind]
    cases (p.runRules (r.withIds ids hs hv) rules).run c with
    | mk result d => cases result <;> rfl

/-- A check that stays live gives the verdict on the request, with the rules that the message
names. -/
theorem check_verdict (p : Provider) (hp : p.spec.before = none) (r : Request) {ids : List String}
    (hs : ids.Pairwise (· < ·)) (hv : ∀ id ∈ ids, Identifier.isWellFormed .rule id)
    (c : CallContext) (hlive : ((p.check (r.message ids)).run c).2.isLive) :
    p.spec.Verdict r ids
      (((p.check (r.message ids)).run c).1.toOption.map CheckReply.findings) := by
  have hc : c.isLive := (p.check_evolves _ c).isLive hlive
  have hsame : (r.withIds ids hs hv).SameInputs r := ⟨rfl, rfl, rfl⟩
  rw [check_run p hp hs hv hc] at hlive ⊢
  rcases select_cases p ids with ⟨hids, hselect⟩ | ⟨⟨id, hid, hnot⟩, e, hselect⟩
  · rw [hselect] at hlive ⊢
    simp only at hlive ⊢
    rcases runRules_cases (p.spec.chosen ids) c hlive with
      ⟨response, es, hrun, hfound, hentries⟩ | ⟨⟨e, hrun⟩, rule, hrule, hfails⟩
    · rw [hrun]
      show p.spec.Verdict r ids (some (response.findings.map Finding.entry))
      rw [hentries]
      exact .found hids (hfound.congr hsame)
    · rw [hrun]
      exact .fails hrule (hfails.congr hsame)
  · rw [hselect]
    exact .unknown hid hnot

end Provider

end SchemaCheck
