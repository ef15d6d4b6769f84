import SchemaCheck.Proofs.Client.Local
import SchemaCheck.Proofs.Collector.Judging
import SchemaCheck.Proofs.Walk.Coverage

/-!
# What the demonstration rules find

A check with the demonstration rules finds the offending files and fields of the rules that were
selected, and nothing else (`Client.check_demo`). Each rule hands in one draft for each thing that
it objects to, in the order of the walk (`Demo.fieldNameRule_finds`, `Demo.timestampRule_finds`,
`Demo.dialectRule_finds`).
-/

namespace SchemaCheck

variable {ω α : Type}

/-! ## What walks hand out -/

section

open Activity

/-- A list of which some members are kept, in two forms. -/
theorem flatMap_ite_singleton {β : Type} (p : α → Prop) [DecidablePred p] (g : α → β)
    (as : List α) : (as.flatMap fun a => if p a then [g a] else []) = (as.filter p).map g := by
  induction as with
  | nil => rfl
  | cons a as ih =>
    rw [List.flatMap_cons, ih]
    by_cases h : p a <;> simp [h]

/-- A visit that hands in an item on some condition yields it when the condition holds. -/
theorem yields_give_if {p q : Prop} [Decidable p] [Decidable q] (h : p ↔ q) (item : ω) :
    Yields (if p then give item else pure ()) (if q then [item] else []) (.ok ()) := by
  by_cases hp : p
  · rw [if_pos hp, if_pos (h.1 hp)]
    exact .emit (.done _)
  · rw [if_neg hp, if_neg fun hq => hp (h.2 hq)]
    exact .done _

variable {given : α → List ω}

/-- A loop yields what each of its turns yields, in order. -/
theorem yields_forEach {visit : α → Activity ω Unit} (h : ∀ a, (visit a).Yields (given a) (.ok ()))
    (as : List α) : (forEach visit as).Yields (as.flatMap given) (.ok ()) := by
  induction as with
  | nil => exact .done _
  | cons a as ih => exact (h a).bind ih

/-- A walk over files yields what each visit does, for the files that are no imports. -/
theorem walkFiles_yields {visit : SchemaFile → Activity ω Unit} {given : SchemaFile → List ω}
    (h : ∀ f, (visit f).Yields (given f) (.ok ())) (files : List SchemaFile) :
    (walkFiles visit files).Yields (toVisit given files) (.ok ()) := by
  induction files with
  | nil => exact .done _
  | cons f files ih =>
    rw [walkFiles]
    cases himport : f.isImport with
    | true =>
      rw [toVisit_cons_import himport]
      exact ih
    | false =>
      rw [toVisit_cons himport]
      exact yields_check_bind.2 ((h f).bind ih)

/-- The items of the files to visit are the items to visit. -/
theorem toVisit_flatMap {items : SchemaFile → List α} (files : List SchemaFile) :
    (toVisit (fun f => [f]) files).flatMap items = toVisit items files := by
  simp [toVisit]

/-- A walk over fields yields what each visit does, in the order of the files. -/
theorem walkFields_yields {visit : FieldItem → Activity ω Unit} {given : FieldItem → List ω}
    (h : ∀ x, (visit x).Yields (given x) (.ok ())) (files : List SchemaFile) :
    (walkFields visit files).Yields
      ((toVisit (fun f => f.descriptor.allFields) files).flatMap given) (.ok ()) := by
  rw [toVisit, List.flatMap_assoc]
  exact walkFiles_yields (fun f => yields_forEach h f.descriptor.allFields) files

end

/-! ## What rules find -/

/-- The fields of the files of a request that are no imports, in order. -/
def Request.fields (r : Request) : List FieldItem :=
  toVisit (fun f => f.descriptor.allFields) r.files

/-- The files of a request that are no imports. -/
def Request.checkedFiles (r : Request) : List SchemaFile := toVisit (fun f => [f]) r.files

/-- A finding of a rule at a place, with a message. -/
def FindingEntry.atPlace (ruleId : String) (place : Place) (message : String) : FindingEntry :=
  { ruleId, message, location := some place }

section

variable {r : Request} {rule : RuleSpec}

/-- A field points to where it is, in a file of the request. -/
theorem FieldItem.target_sound {x : FieldItem} (hx : x ∈ r.fields) : x.target.Sound r.files where
  oneWay _ := ⟨rfl, rfl⟩
  inFile h := absurd rfl h
  known name h := by
    rcases h with h | ⟨path, h⟩
    · cases h
    · cases h
      obtain ⟨f, hf, -, hx⟩ := mem_toVisit.1 hx
      obtain ⟨a, ha⟩ := f.descriptor.allFields_enumerated.exists_address hx
      exact ⟨f, hf, congrArg FileDescriptor.name ha.file.symm⟩

/-- A rule that looks at each field, and objects to some, finds one thing for each of these. -/
theorem RuleSpec.finds_of_forEachField
    {visit : String → Request → FieldItem → Activity Draft Unit}
    (hrule : rule.handler = .forEachField visit) (hid : Identifier.isWellFormed .rule rule.id)
    (p : FieldItem → Prop) [DecidablePred p] (message : FieldItem → String)
    (hvisit : ∀ x, (visit rule.id r x).Yields
      (if p x then [{ message := message x, current := x.target }] else []) (.ok ())) :
    rule.Finds r ((r.fields.filter p).map fun x => .atPlace rule.id x.place (message x)) := by
  have hyields := walkFields_yields hvisit r.files
  rw [flatMap_ite_singleton] at hyields
  refine ⟨r, _, .refl r, by rw [hrule]; exact hyields, fun d hd => ?_, ?_⟩
  · obtain ⟨x, hx, rfl⟩ := List.mem_map.1 hd
    have hx : x ∈ r.fields := List.mem_of_mem_filter hx
    exact Request.admits_iff_sound.2 ⟨hid, FieldItem.target_sound hx, Target.sound_empty _⟩
  · rw [List.map_map]
    rfl

end

namespace Demo

open Activity
open Text (quoted)

section

variable (r : Request)

/-- One finding for each field whose name is not in lower_snake_case. -/
def fieldNameEntries : List FindingEntry :=
  (r.fields.filter fun x => x.name ≠ Text.lowerSnakeCase x.name).map fun x =>
    .atPlace "FIELD_LOWER_SNAKE_CASE" x.place ("Field name " ++ quoted x.name ++
      " should be lower_snake_case, such as " ++ quoted (Text.lowerSnakeCase x.name) ++ ".")

/-- One finding for each field that holds a timestamp and whose name does not end in the suffix. -/
def timestampEntries (suffix : String) : List FindingEntry :=
  (r.fields.filter fun x => x.messageType = some "google.protobuf.Timestamp" ∧
    ¬ suffix.toList <:+ x.name.toList).map fun x =>
      .atPlace "TIMESTAMP_SUFFIX" x.place
        ("Fields of type google.protobuf.Timestamp must end in " ++ quoted suffix ++
          " but field name was " ++ quoted x.name ++ ".")

/-- One finding for each file with a dialect that is not empty. -/
def dialectEntries : List FindingEntry :=
  (r.checkedFiles.filter fun f => ∃ dialect ∈ f.descriptor.dialect, dialect ≠ "").map fun f =>
    .atPlace "SYNTAX_UNSPECIFIED" ⟨f.name, [12]⟩ ("Syntax should not be specified but was " ++
      quoted (f.descriptor.dialect.getD "") ++ ".")

end

/-- The rule about names finds the fields whose names are not in lower_snake_case. -/
theorem fieldNameRule_finds (r : Request) : fieldNameRule.Finds r (fieldNameEntries r) :=
  RuleSpec.finds_of_forEachField rfl (by decide +kernel) _ _ fun _ => yields_give_if .rfl _

/-- The text of an option is not empty. -/
theorem getText?_ne_empty {o : Options} {key : String} : o.getText? key ≠ .ok (some "") := by
  intro h
  unfold Options.getText? at h
  cases hget : o.get? key with
  | none =>
    rw [hget] at h
    cases h
  | some value =>
    rw [hget] at h
    obtain ⟨e, he, rfl⟩ := Option.map_eq_some_iff.1 hget
    have hvalue : Bytes.toString? e.2 = some "" := by
      cases htext : Bytes.toString? e.2 with
      | none => simp [htext] at h
      | some text =>
        simp only [htext] at h
        injection h with h
    exact (o.valid e (List.mem_of_find?_eq_some he)).2 (Bytes.toString?_eq_some_iff.1 hvalue).symm

/-- A field is objected to when it holds a timestamp and does not end in the suffix, which is that
of the option if it is set. -/
theorem timestampRule_finds {r : Request} {text : Option String}
    (htext : r.options.getText? suffixKey = .ok text) :
    timestampRule.Finds r (timestampEntries r (text.getD "_time")) := by
  refine RuleSpec.finds_of_forEachField rfl (by decide +kernel) _ _ fun x => ?_
  have hobjects : ∀ suffix : String, (decide (x.messageType = some timestampType) &&
      !suffix.toList.isSuffixOf x.name.toList) = true ↔
      x.messageType = some "google.protobuf.Timestamp" ∧ ¬ suffix.toList <:+ x.name.toList := by
    intro suffix
    rw [Bool.and_eq_true, decide_eq_true_eq, Bool.not_eq_true', ← Bool.not_eq_true,
      List.isSuffixOf_iff_suffix]
    rfl
  rw [htext]
  cases text with
  | none => exact yields_give_if (hobjects defaultSuffix) _
  | some s =>
    have hs : ¬ s.isEmpty = true := by
      rw [String.isEmpty_iff]
      rintro rfl
      exact getText?_ne_empty htext
    show Yields (if s.isEmpty = true then _ else _) _ _
    rw [if_neg hs]
    exact yields_give_if (hobjects s) _

/-- A file is objected to when it declares a dialect that is not empty. -/
theorem dialectRule_finds (r : Request) : dialectRule.Finds r (dialectEntries r) := by
  have hobjects : ∀ f : SchemaFile,
      (!f.isDialectUnspecified) = true ↔ ∃ dialect ∈ f.descriptor.dialect, dialect ≠ "" := by
    intro f
    unfold SchemaFile.isDialectUnspecified
    cases f.descriptor.dialect <;> simp
  have hyields := walkFiles_yields (fun f => yields_give_if (hobjects f) ({
    message := "Syntax should not be specified but was " ++
      quoted (f.descriptor.dialect.getD "") ++ "."
    current := { fileName := some f.name, path := some [12] } } : Draft)) r.files
  rw [← toVisit_flatMap, flatMap_ite_singleton] at hyields
  refine ⟨r, _, .refl r, hyields, fun d hd => ?_, ?_⟩
  · obtain ⟨f, hf, rfl⟩ := List.mem_map.1 hd
    obtain ⟨f', hf', -, hmem⟩ := mem_toVisit.1 (List.mem_of_mem_filter hf)
    obtain rfl := List.mem_singleton.1 hmem
    have hid : Identifier.isWellFormed .rule dialectRule.id := by decide +kernel
    refine Request.admits_iff_sound.2 ⟨hid, ⟨fun h => absurd rfl h, fun _ => ?_, ?_⟩,
      Target.sound_empty _⟩
    · exact Option.some_ne_none _
    · rintro name (h | ⟨path, h⟩)
      · cases h
        exact ⟨f, hf', rfl⟩
      · cases h
  · rw [List.map_map]
    rfl

/-! ## What a check finds -/

/-- What a check with the demonstration rules finds, when the option for the suffix is as given:
what the selected rules find, the last two of which are selected when none is named. -/
def entries (text : Option String) (r : Request) : List FindingEntry :=
  (if "FIELD_LOWER_SNAKE_CASE" ∈ r.ruleIds then fieldNameEntries r else []) ++
  (if r.ruleIds = [] ∨ "TIMESTAMP_SUFFIX" ∈ r.ruleIds then
    timestampEntries r (text.getD "_time") else []) ++
  (if r.ruleIds = [] ∨ "SYNTAX_UNSPECIFIED" ∈ r.ruleIds then dialectEntries r else [])

/-- The first of some rules finds its part when it is selected, and the others find theirs. -/
theorem findsAll_filter_cons {r : Request} {rule : RuleSpec} {rules : List RuleSpec}
    {q : RuleSpec → Bool} {p : Prop} [Decidable p] {es fs : List FindingEntry}
    (hq : q rule = true ↔ p) (hrule : rule.Finds r es)
    (hrules : RuleSpec.FindsAll r (rules.filter q) fs) :
    RuleSpec.FindsAll r ((rule :: rules).filter q) ((if p then es else []) ++ fs) := by
  by_cases hp : p
  · rw [List.filter_cons_of_pos (hq.2 hp), if_pos hp]
    exact .cons hrule hrules
  · rw [List.filter_cons_of_neg fun h => hp (hq.1 h), if_neg hp]
    exact hrules

/-- The selected rules find what they find one by one. -/
theorem findsAll_entries {r : Request} {text : Option String}
    (htext : r.options.getText? suffixKey = .ok text) :
    RuleSpec.FindsAll r (spec.chosen r.ruleIds) (entries text r) := by
  have hdefault : ∀ rule : RuleSpec, rule.isDefault = true →
      ((if r.ruleIds.isEmpty then rule.isDefault else r.ruleIds.contains rule.id) = true ↔
        r.ruleIds = [] ∨ rule.id ∈ r.ruleIds) := by
    intro rule hrule
    cases r.ruleIds <;> simp [hrule]
  have hnamed : (if r.ruleIds.isEmpty then fieldNameRule.isDefault
      else r.ruleIds.contains fieldNameRule.id) = true ↔ fieldNameRule.id ∈ r.ruleIds := by
    cases r.ruleIds <;> simp [fieldNameRule]
  have hnone : RuleSpec.FindsAll r (([] : List RuleSpec).filter fun rule =>
      if r.ruleIds.isEmpty then rule.isDefault else r.ruleIds.contains rule.id) [] := .nil
  have hfound := findsAll_filter_cons hnamed (fieldNameRule_finds r)
    (findsAll_filter_cons (hdefault timestampRule rfl) (timestampRule_finds htext)
      (findsAll_filter_cons (hdefault dialectRule rfl) (dialectRule_finds r) hnone))
  rw [List.append_nil] at hfound
  rw [entries, List.append_assoc]
  exact hfound

end Demo

/-- A client of the demonstration rules finds the things that the selected rules object to, in
order, and nothing else. The rules that are named are demonstration rules, the message is nested no
deeper than messages may be, and the option for the suffix is not set or is text. The fields that
are looked at are those of the files, at any depth. -/
theorem Client.check_demo {τ : Type} {p : Provider} (hp : p.spec = Demo.spec) {c : Client τ}
    (hc : c.transport = Transport.ofProvider p) {r : Request}
    (hids : ∀ id ∈ r.ruleIds, id ∈ Demo.spec.ruleIds)
    (hdepth : (CheckMessage.codec.encode (r.message r.ruleIds)).depth ≤ 127) {text : Option String}
    (htext : r.options.getText? Demo.suffixKey = .ok text) {s : Session (ClientState τ)}
    (hlive : s.context.isLive) :
    (∃ response, ((c.check r).runIn s).1 = .ok response ∧
      (response.findings.map Finding.entry).Perm (Demo.entries text r) ∧
      (response.findings.map Finding.entry).Pairwise (fun a b => a.le b) ∧
      ∀ f ∈ response.findings, f.IsOf r) ∧
    ∀ f ∈ r.files, Enumerates (FieldItem.StandsAt f.descriptor) f.descriptor.allFields := by
  refine ⟨?_, fun f _ => f.descriptor.allFields_enumerated⟩
  have hbefore : p.spec.before = none := hp ▸ rfl
  have hcalm : ∀ rule ∈ p.spec.rules, rule.handler.Calm := hp ▸ Demo.rules_calm
  have hinput : ∀ rule ∈ p.spec.rules, rule.handler.InputOnly := hp ▸ Demo.rules_inputOnly
  have hend : ((c.check r).runIn s).2.context.isLive := by
    rw [check_context hc hbefore hcalm]
    exact hlive
  have hverdict : p.spec.Verdict r r.ruleIds (some (FindingEntry.sort (Demo.entries text r))) :=
    .found (hp ▸ hids) (hp ▸ Demo.findsAll_entries htext)
  rcases check_verdict hc hbefore hdepth s hend with ⟨response, hresult, hfound, hof⟩ | ⟨-, hnone⟩
  · have hsort : response.findings.map Finding.entry = FindingEntry.sort (Demo.entries text r) :=
      Option.some.inj (hfound.unique hinput hverdict)
    refine ⟨response, hresult, ?_⟩
    rw [hsort]
    exact ⟨FindingEntry.sort_perm _, FindingEntry.pairwise_sort _, hof⟩
  · cases hnone.unique hinput hverdict

/-- `Client.check_demo` for a request that names no rules. -/
theorem Client.check_demo_nested :
    ∃ response, (((ofProvider Demo.provider).check nestedRequest).runIn ⟨{}, { link := () }⟩).1
        = .ok response ∧
      response.findings.map Finding.entry =
        [.atPlace "SYNTAX_UNSPECIFIED" ⟨"order.proto", [12]⟩
            "Syntax should not be specified but was \"proto3\".",
          .atPlace "TIMESTAMP_SUFFIX" ⟨"order.proto", [4, 0, 2, 0]⟩
            ("Fields of type google.protobuf.Timestamp must end in \"_time\" " ++
              "but field name was \"createdAt\".")] := by
  have hdepth :
      (CheckMessage.codec.encode (nestedRequest.message nestedRequest.ruleIds)).depth ≤ 127 := by
    decide +kernel
  obtain ⟨⟨response, hresult, hperm, hsorted, -⟩, -⟩ :=
    check_demo (p := Demo.provider) rfl (c := ofProvider Demo.provider) rfl
      (r := nestedRequest) (fun _ h => nomatch h) hdepth rfl (s := ⟨{}, { link := () }⟩) (by decide)
  refine ⟨response, hresult, FindingEntry.eq_of_perm_of_pairwise (hperm.trans ?_) hsorted ?_⟩
  · decide +kernel
  · decide +kernel

end SchemaCheck
