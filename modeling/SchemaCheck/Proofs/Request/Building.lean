import SchemaCheck.Proofs.Request.Splitting
import SchemaCheck.Proofs.Spec.Registry

/-!
# Building a request

Settings may be made on a builder in any order and number. The builder keeps the last former files,
the last options, and all single options and rules (`RequestBuilder.foldl_set`). It builds a request
just when what it keeps is in order (`RequestBuilder.Setting.InOrder`), and the request says what
was set, with its rules in ascending order and each once (`Request.Says`). Requests from messages
and requests with other rules are built in the same way, so all of them are canonical
(`requests_canonical`).
-/

namespace SchemaCheck

/-! ## Accepted options -/

namespace Options

variable {o : Options}

/-- An entry is accepted when it is well-formed and its key is new. -/
theorem exists_insert?_iff {k : String} {v : Bytes} : (∃ o', o.insert? k v = .ok o') ↔
    (Identifier.isWellFormed .optionKey k ∧ v ≠ []) ∧ ∀ e ∈ o.entries, e.1 ≠ k := by
  unfold insert? Identifier.isWellFormed
  split
  · next reason h => simp [h]
  · next h =>
    split
    · next hv => simp [hv]
    · next hv =>
      split
      · next hnew => exact ⟨fun _ => ⟨⟨by simp [h], hv⟩, hnew⟩, fun _ => ⟨_, rfl⟩⟩
      · next hnew =>
        refine iff_of_false ?_ fun h => hnew h.2
        rintro ⟨o', ho⟩
        cases ho

/-- Entries are accepted when all are well-formed and no key is given twice. -/
theorem exists_insertAll_iff {es : List (String × Bytes)} : (∃ o', o.insertAll es = .ok o') ↔
    (∀ e ∈ es, Identifier.isWellFormed .optionKey e.1 ∧ e.2 ≠ []) ∧
      ((o.entries ++ es).map (·.1)).Nodup := by
  induction es generalizing o with
  | nil =>
    have hnodup : (o.entries.map (·.1)).Nodup :=
      List.pairwise_map.2 (o.sorted.imp fun hlt => Std.ne_of_lt hlt)
    simpa [insertAll] using hnodup
  | cons e es ih =>
    obtain ⟨k, v⟩ := e
    have hfirst : (o.entries ++ (k, v) :: es).Perm ((k, v) :: (o.entries ++ es)) :=
      List.perm_middle
    rw [(hfirst.map _).nodup_iff, List.map_cons, List.nodup_cons, List.forall_mem_cons]
    constructor
    · rintro ⟨o'', h⟩
      obtain ⟨o', hinsert, hrest⟩ := exists_of_bind_eq_ok h
      have hperm : (o'.entries ++ es).Perm ((k, v) :: (o.entries ++ es)) :=
        (perm_of_insert? hinsert).append_right es
      obtain ⟨hes, hnodup⟩ := ih.1 ⟨o'', hrest⟩
      rw [(hperm.map _).nodup_iff, List.map_cons, List.nodup_cons] at hnodup
      exact ⟨⟨(exists_insert?_iff.1 ⟨o', hinsert⟩).1, hes⟩, hnodup⟩
    · rintro ⟨⟨hv, hes⟩, hnew, hnodup⟩
      have hk : ∀ e ∈ o.entries, e.1 ≠ k := fun e he hek =>
        hnew (List.mem_map.2 ⟨e, List.mem_append_left es he, hek⟩)
      obtain ⟨o', hinsert⟩ := exists_insert?_iff.2 ⟨hv, hk⟩
      have hperm : (o'.entries ++ es).Perm ((k, v) :: (o.entries ++ es)) :=
        (perm_of_insert? hinsert).append_right es
      have hnodup' : ((o'.entries ++ es).map (·.1)).Nodup := by
        rw [(hperm.map _).nodup_iff, List.map_cons]
        exact List.nodup_cons.2 ⟨hnew, hnodup⟩
      obtain ⟨o'', hrest⟩ := ih.2 ⟨hes, hnodup'⟩
      exact ⟨o'', by rw [insertAll, hinsert]; exact hrest⟩

end Options

/-- The sorted form of a list says which texts are in the list and nothing else. -/
theorem Text.sortedUnique_congr {as bs : List String} (h : ∀ t, t ∈ as ↔ t ∈ bs) :
    sortedUnique as = sortedUnique bs := by
  have hnodup : ∀ ts : List String, (sortedUnique ts).Nodup := fun ts =>
    (pairwise_sortedUnique ts).imp fun hlt => Std.ne_of_lt hlt
  have hperm : (sortedUnique as).Perm (sortedUnique bs) :=
    (List.perm_ext_iff_of_nodup (hnodup as) (hnodup bs)).2 fun t => by simp [h]
  exact hperm.eq_of_pairwise (fun _ _ _ _ hab hba => absurd hab (String.lt_asymm hba))
    (pairwise_sortedUnique as) (pairwise_sortedUnique bs)

/-! ## Settings -/

namespace RequestBuilder

/-- A setting of a builder. -/
inductive Setting where
  | against (fs : List SchemaFile)
  | options (o : Options)
  | option (key : String) (value : Bytes)
  | rules (ids : List String)

/-- Makes a setting. -/
def set (b : RequestBuilder) : Setting → RequestBuilder
  | .against fs => b.withAgainst fs
  | .options o => b.withOptions o
  | .option key value => b.withOption key value
  | .rules ids => b.withRules ids

/-- The builder for the files after the settings, one after the other. -/
def ofSettings (files : List SchemaFile) (ss : List Setting) : RequestBuilder :=
  ss.foldl set { files, options := .empty }

namespace Setting

/-- The former files that a setting gives. -/
def against? : Setting → Option (List SchemaFile)
  | .against fs => some fs
  | _ => none

/-- The options that a setting gives. -/
def options? : Setting → Option Options
  | .options o => some o
  | _ => none

/-- The single option that a setting adds. -/
def pair? : Setting → Option (String × Bytes)
  | .option key value => some (key, value)
  | _ => none

/-- The rules that a setting adds. -/
def ids : Setting → List String
  | .rules ids => ids
  | _ => []

/-- The former files that were given last, or none. -/
def lastAgainst (ss : List Setting) : List SchemaFile := (ss.filterMap against?).getLast?.getD []

/-- The options that were given last, or none. -/
def lastOptions (ss : List Setting) : Options := (ss.filterMap options?).getLast?.getD .empty

/-- The single options that were added. -/
def pairs (ss : List Setting) : List (String × Bytes) := ss.filterMap pair?

/-- The rules that were added. -/
def ruleIds (ss : List Setting) : List String := ss.flatMap ids

/-- Files and settings that make a request: there are files, the names of the files and of the last
former files are not empty and all different, the rules are well-formed, and so are the last options
together with the single ones, no key of which occurs twice. -/
structure InOrder (files : List SchemaFile) (ss : List Setting) : Prop where
  files_ne_nil : files ≠ []
  names_distinct : NamesDistinct files
  against_distinct : NamesDistinct (lastAgainst ss)
  ids_formed : ∀ id ∈ ruleIds ss, Identifier.Formed .rule id
  options_formed : ∀ e ∈ (lastOptions ss).entries ++ pairs ss,
    Identifier.Formed .optionKey e.1 ∧ e.2 ≠ []
  keys_nodup : (((lastOptions ss).entries ++ pairs ss).map (·.1)).Nodup

end Setting

variable {files : List SchemaFile} {ss : List Setting}

/-- What a setting changes: what it gives replaces what was given, what it adds goes to the end. -/
theorem set_eq (b : RequestBuilder) (s : Setting) : b.set s =
    ⟨b.files, s.against?.getD b.againstFiles, s.options?.getD b.options,
      b.pairs ++ s.pair?.toList, b.ruleIds ++ s.ids⟩ := by
  cases s <;> simp [set, withAgainst, withOptions, withOption, withRules, Setting.against?,
    Setting.options?, Setting.pair?, Setting.ids]

/-- What comes last of a longer list is what comes last of the rest, or else what the first gives.
-/
theorem getLast?_filterMap_cons {α β : Type} (f : α → Option β) (a : α) (as : List α) (b : β) :
    ((a :: as).filterMap f).getLast?.getD b = (as.filterMap f).getLast?.getD ((f a).getD b) := by
  cases h : f a with
  | none => simp [h]
  | some c => simp [h, List.getLast?_cons]

/-- What settings change, one after the other: the last that gives something counts, and all that
add something do. -/
theorem foldl_set (b : RequestBuilder) (ss : List Setting) : ss.foldl set b =
    ⟨b.files, (ss.filterMap Setting.against?).getLast?.getD b.againstFiles,
      (ss.filterMap Setting.options?).getLast?.getD b.options,
      b.pairs ++ ss.filterMap Setting.pair?, b.ruleIds ++ ss.flatMap Setting.ids⟩ := by
  induction ss generalizing b with
  | nil => simp
  | cons s ss ih =>
    have hpairs : (s :: ss).filterMap Setting.pair? =
        s.pair?.toList ++ ss.filterMap Setting.pair? := by
      cases h : s.pair? <;> simp [h]
    rw [List.foldl_cons, ih, set_eq, getLast?_filterMap_cons, getLast?_filterMap_cons, hpairs,
      List.flatMap_cons, List.append_assoc, List.append_assoc]

/-- What settings make of a new builder. -/
theorem ofSettings_eq (files : List SchemaFile) (ss : List Setting) : ofSettings files ss =
    ⟨files, Setting.lastAgainst ss, Setting.lastOptions ss, Setting.pairs ss,
      Setting.ruleIds ss⟩ :=
  foldl_set { files, options := .empty } ss

/-! ## Building -/

/-- A builder makes a request when each of its parts is accepted. -/
theorem exists_build_iff {b : RequestBuilder} : (∃ r, b.build = .ok r) ↔
    b.files ≠ [] ∧ NamesDistinct b.files ∧ NamesDistinct b.againstFiles ∧
      (∀ id ∈ b.ruleIds, Identifier.isWellFormed .rule id) ∧
      ∃ o, b.options.insertAll b.pairs = .ok o := by
  constructor
  · rintro ⟨r, h⟩
    obtain ⟨hfiles, hagainst, hids, hoptions⟩ := build_eq_ok_iff.1 h
    refine ⟨hfiles ▸ r.files_ne_nil, hfiles ▸ r.names_distinct, hagainst ▸ r.against_distinct,
      fun id hid => r.ids_valid id ?_, _, hoptions⟩
    rw [hids]
    exact Text.mem_sortedUnique.2 hid
  · rintro ⟨hne, hfiles, hagainst, hids, o, hoptions⟩
    exact ⟨⟨b.files, b.againstFiles, o, Text.sortedUnique b.ruleIds, hne, hfiles, hagainst,
      Text.pairwise_sortedUnique _, fun id hid => hids id (Text.mem_sortedUnique.1 hid)⟩,
      build_eq_ok_iff.2 ⟨rfl, rfl, rfl, hoptions⟩⟩

/-- Settings make a request just when all of them are in order. -/
theorem exists_build_ofSettings_iff :
    (∃ r, (ofSettings files ss).build = .ok r) ↔ Setting.InOrder files ss := by
  rw [ofSettings_eq, exists_build_iff, Options.exists_insertAll_iff]
  simp only [Identifier.isWellFormed_iff]
  constructor
  · rintro ⟨hne, hfiles, hagainst, hids, hpairs, hnodup⟩
    refine ⟨hne, hfiles, hagainst, hids, fun e he => ?_, hnodup⟩
    rcases List.mem_append.1 he with he | he
    · obtain ⟨hkey, hvalue⟩ := (Setting.lastOptions ss).valid e he
      exact ⟨Identifier.isWellFormed_iff.1 hkey, hvalue⟩
    · exact hpairs e he
  · rintro ⟨hne, hfiles, hagainst, hids, hoptions, hnodup⟩
    exact ⟨hne, hfiles, hagainst, hids, fun e he => hoptions e (List.mem_append_right _ he),
      hnodup⟩

/-- What is built depends on the added rules as a set. -/
theorem build_ofSettings_congr {ss ss' : List Setting} {r : Request}
    (hagainst : Setting.lastAgainst ss = Setting.lastAgainst ss')
    (hoptions : Setting.lastOptions ss = Setting.lastOptions ss')
    (hpairs : Setting.pairs ss = Setting.pairs ss')
    (hids : ∀ id, id ∈ Setting.ruleIds ss ↔ id ∈ Setting.ruleIds ss') :
    (ofSettings files ss).build = .ok r ↔ (ofSettings files ss').build = .ok r := by
  rw [ofSettings_eq, ofSettings_eq, build_eq_ok_iff, build_eq_ok_iff, hagainst, hoptions, hpairs,
    Text.sortedUnique_congr hids]

end RequestBuilder

open RequestBuilder

namespace Request

/-- A request says what was set: the files, the last former files, the rules, in ascending order and
each once, and the last options together with the single ones. -/
structure Says (r : Request) (files : List SchemaFile) (ss : List Setting) : Prop where
  files : r.files = files
  againstFiles : r.againstFiles = Setting.lastAgainst ss
  ids_sorted : r.ruleIds.Pairwise (· < ·)
  mem_ruleIds : ∀ id, id ∈ r.ruleIds ↔ id ∈ Setting.ruleIds ss
  options : r.options.entries.Perm ((Setting.lastOptions ss).entries ++ Setting.pairs ss)

/-- A request that settings make says what was set. -/
theorem says_of_build {r : Request} {files : List SchemaFile} {ss : List Setting}
    (h : (ofSettings files ss).build = .ok r) : r.Says files ss := by
  rw [ofSettings_eq] at h
  obtain ⟨hfiles, hagainst, hids, hoptions⟩ := build_eq_ok_iff.1 h
  refine ⟨hfiles, hagainst, r.ids_sorted, fun id => ?_, Options.perm_of_insertAll hoptions⟩
  rw [hids]
  exact Text.mem_sortedUnique

/-! ## Other ways to make a request -/

/-- The settings that give a request other rules. -/
def settings (r : Request) (ids : List String) : List Setting :=
  [.against r.againstFiles, .options r.options, .rules ids]

/-- A request with other rules is built from the parts of the request. -/
theorem withRuleIds_eq_build (r : Request) (ids : List String) :
    r.withRuleIds ids = (ofSettings r.files (r.settings ids)).build := rfl

/-- Rules that are well-formed are all that is asked for. -/
theorem exists_withRuleIds_iff {r : Request} {ids : List String} :
    (∃ r', r.withRuleIds ids = .ok r') ↔ ∀ id ∈ ids, Identifier.Formed .rule id := by
  rw [withRuleIds, exists_build_iff]
  simp only [Identifier.isWellFormed_iff]
  constructor
  · rintro ⟨-, -, -, hids, -⟩
    exact hids
  · exact fun hids => ⟨r.files_ne_nil, r.names_distinct, r.against_distinct, hids, _, rfl⟩

/-- A request with other rules is the same but for the rules. -/
theorem parts_of_withRuleIds {r r' : Request} {ids : List String}
    (h : r.withRuleIds ids = .ok r') :
    r'.files = r.files ∧ r'.againstFiles = r.againstFiles ∧ r'.options = r.options ∧
      r'.ruleIds.Pairwise (· < ·) ∧ ∀ id, id ∈ r'.ruleIds ↔ id ∈ ids := by
  obtain ⟨hfiles, hagainst, hids, hoptions⟩ := build_eq_ok_iff.1 h
  refine ⟨hfiles, hagainst, (Except.ok.inj hoptions).symm, r'.ids_sorted, fun id => ?_⟩
  rw [hids]
  exact Text.mem_sortedUnique

end Request

/-- The settings that a message makes. -/
def CheckMessage.settings (m : CheckMessage) : List Setting :=
  .against m.againstFiles :: .rules m.ruleIds :: m.options.map fun e => .option e.1 e.2

/-- The settings of a message make a builder of its parts. -/
theorem CheckMessage.ofSettings_settings (m : CheckMessage) :
    ofSettings m.files m.settings = ⟨m.files, m.againstFiles, .empty, m.options, m.ruleIds⟩ := by
  rw [ofSettings_eq]
  simp only [settings, Setting.lastAgainst, Setting.lastOptions, Setting.pairs, Setting.ruleIds,
    List.filterMap_cons, List.flatMap_cons, List.filterMap_map, List.flatMap_map]
  simp [Setting.against?, Setting.options?, Setting.pair?, Setting.ids, Function.comp_def]

namespace Request

/-- A message makes the request that its settings make. -/
theorem ofMessage_eq_ok_iff {m : CheckMessage} {r : Request} :
    ofMessage m = .ok r ↔ (ofSettings m.files m.settings).build = .ok r := by
  rw [CheckMessage.ofSettings_settings, build_eq_ok_iff]
  constructor
  · intro h
    obtain ⟨o, hoptions, hbuild⟩ := exists_of_bind_eq_ok h
    obtain ⟨hfiles, hagainst, hids, hsame⟩ := build_eq_ok_iff.1 hbuild
    obtain rfl : o = r.options := Except.ok.inj hsame
    exact ⟨hfiles, hagainst, hids, hoptions⟩
  · rintro ⟨hfiles, hagainst, hids, hoptions⟩
    have hoptions : Options.ofPairs m.options = .ok r.options := hoptions
    rw [ofMessage, hoptions]
    exact build_eq_ok_iff.2 ⟨hfiles, hagainst, hids, rfl⟩

/-- Requests that come from builders, from messages, and from such requests by a change of rules. -/
inductive Reachable : Request → Prop where
  | build {files : List SchemaFile} {ss : List Setting} {r : Request} :
      (ofSettings files ss).build = .ok r → Reachable r
  | withRuleIds {r r' : Request} {ids : List String} :
      Reachable r → r.withRuleIds ids = .ok r' → Reachable r'
  | ofMessage {m : CheckMessage} {r : Request} : ofMessage m = .ok r → Reachable r

/-- The form of a request: it has files, names are not empty and all different, the rules are
well-formed, in ascending order and each once, and the options have well-formed keys, each once, and
values that are not empty. -/
structure Canonical (r : Request) : Prop where
  files_ne_nil : r.files ≠ []
  names_distinct : NamesDistinct r.files
  against_distinct : NamesDistinct r.againstFiles
  ids_sorted : r.ruleIds.Pairwise (· < ·)
  ids_formed : ∀ id ∈ r.ruleIds, Identifier.Formed .rule id
  options_sorted : r.options.entries.Pairwise fun a b => a.1 < b.1
  options_formed : ∀ e ∈ r.options.entries, Identifier.Formed .optionKey e.1 ∧ e.2 ≠ []

/-- Every request is canonical, as its fields carry the proof. -/
theorem canonical (r : Request) : r.Canonical where
  files_ne_nil := r.files_ne_nil
  names_distinct := r.names_distinct
  against_distinct := r.against_distinct
  ids_sorted := r.ids_sorted
  ids_formed id hid := Identifier.isWellFormed_iff.1 (r.ids_valid id hid)
  options_sorted := r.options.sorted
  options_formed e he := (r.options.valid e he).imp_left Identifier.isWellFormed_iff.1

/-- However a request is made, some settings make it. -/
theorem Reachable.exists_settings {r : Request} (h : r.Reachable) :
    ∃ files ss, (ofSettings files ss).build = .ok r := by
  cases h with
  | build h => exact ⟨_, _, h⟩
  | @withRuleIds s _ ids _ h =>
    rw [withRuleIds_eq_build] at h
    exact ⟨_, _, h⟩
  | ofMessage h => exact ⟨_, _, ofMessage_eq_ok_iff.1 h⟩

end Request

/-- A builder accepts exactly what is in order, whatever the order of its settings, and the request
says what was set; the rules count as a set. A message is accepted, and read, as its settings are.
However a request is made, it is canonical and says what some settings in order say. Other rules may
be given to any request, if they are well-formed, and change nothing else. -/
theorem requests_canonical :
    (∀ files ss, ((∃ r, (ofSettings files ss).build = .ok r) ↔ Setting.InOrder files ss) ∧
      ∀ r, (ofSettings files ss).build = .ok r → r.Says files ss) ∧
    (∀ files ss ss' r, Setting.lastAgainst ss = Setting.lastAgainst ss' →
      Setting.lastOptions ss = Setting.lastOptions ss' → Setting.pairs ss = Setting.pairs ss' →
      (∀ id, id ∈ Setting.ruleIds ss ↔ id ∈ Setting.ruleIds ss') →
      ((ofSettings files ss).build = .ok r ↔ (ofSettings files ss').build = .ok r)) ∧
    (∀ m : CheckMessage,
      ((∃ r, Request.ofMessage m = .ok r) ↔ Setting.InOrder m.files m.settings) ∧
      ∀ r, Request.ofMessage m = .ok r → r.Says m.files m.settings) ∧
    (∀ r : Request, r.Reachable →
      r.Canonical ∧ ∃ files ss, Setting.InOrder files ss ∧ r.Says files ss) ∧
    ∀ (r : Request) (ids : List String),
      ((∃ r', r.withRuleIds ids = .ok r') ↔ ∀ id ∈ ids, Identifier.Formed .rule id) ∧
      ∀ r', r.withRuleIds ids = .ok r' →
        r'.files = r.files ∧ r'.againstFiles = r.againstFiles ∧ r'.options = r.options ∧
        r'.ruleIds.Pairwise (· < ·) ∧ ∀ id, id ∈ r'.ruleIds ↔ id ∈ ids := by
  have hbuild : ∀ files ss,
      ((∃ r, (ofSettings files ss).build = .ok r) ↔ Setting.InOrder files ss) ∧
        ∀ r, (ofSettings files ss).build = .ok r → r.Says files ss :=
    fun files ss => ⟨exists_build_ofSettings_iff, fun r => Request.says_of_build⟩
  refine ⟨hbuild, fun files ss ss' r => build_ofSettings_congr, fun m => ?_,
    fun r hr => ⟨r.canonical, ?_⟩,
    fun r ids => ⟨Request.exists_withRuleIds_iff, fun r' => Request.parts_of_withRuleIds⟩⟩
  · simp only [Request.ofMessage_eq_ok_iff]
    exact hbuild m.files m.settings
  · obtain ⟨files, ss, h⟩ := hr.exists_settings
    exact ⟨files, ss, (hbuild files ss).1.1 ⟨r, h⟩, (hbuild files ss).2 r h⟩

end SchemaCheck
