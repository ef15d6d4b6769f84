import SchemaCheck.Request

/-!
# Requests and their messages

A builder makes a request just when its parts are in order, and then the request has these parts
(`RequestBuilder.build_eq_ok_iff`). So the message of a request makes the request again, with the
rules that the message names (`Request.ofMessage_message`), and the messages that a request is split
into name its rules part by part (`Request.messages_eq_map`, `Request.flatten_parts`).
-/

namespace SchemaCheck

/-! ## Canonical lists -/

namespace Text

/-- Texts that ascend have no repetitions to drop. -/
theorem dropRepeats_of_pairwise {ts : List String} (h : ts.Pairwise (· < ·)) :
    dropRepeats ts = ts := by
  fun_induction dropRepeats ts with
  | case1 => rfl
  | case2 => rfl
  | case3 a rest ih =>
    obtain ⟨ha, -⟩ := List.pairwise_cons.1 h
    exact absurd (ha a List.mem_cons_self) (String.lt_irrefl a)
  | case4 a b rest hab ih => rw [ih (List.pairwise_cons.1 h).2]

/-- A list in strictly ascending order is its own sorted form. -/
theorem sortedUnique_of_pairwise {ts : List String} (h : ts.Pairwise (· < ·)) :
    sortedUnique ts = ts := by
  have hle : ts.Pairwise fun a b => decide (a ≤ b) :=
    h.imp fun hab => decide_eq_true (Std.le_of_lt hab)
  rw [sortedUnique, sorted, List.mergeSort_of_pairwise hle, dropRepeats_of_pairwise h]

/-- A key after all others is put at the end. -/
theorem insertKey_of_lt {β : Type} {k : String} {v : β} {es : List (String × β)}
    (h : ∀ e ∈ es, e.1 < k) : insertKey k v es = es ++ [(k, v)] := by
  induction es with
  | nil => rfl
  | cons e es ih =>
    rw [insertKey, if_neg (String.lt_asymm (h e List.mem_cons_self)),
      ih fun e he => h e (List.mem_cons_of_mem _ he)]
    rfl

end Text

namespace Options

/-- Adding entries with greater and greater keys appends them. -/
theorem entries_insertAll (o : Options) (es : List (String × Bytes))
    (hs : (o.entries ++ es).Pairwise fun a b => a.1 < b.1)
    (hv : ∀ e ∈ es, Identifier.isWellFormed .optionKey e.1 ∧ e.2 ≠ []) :
    ∃ o', o.insertAll es = .ok o' ∧ o'.entries = o.entries ++ es := by
  induction es generalizing o with
  | nil => exact ⟨o, rfl, (List.append_nil _).symm⟩
  | cons e es ih =>
    obtain ⟨k, v⟩ := e
    obtain ⟨hk, hvalue⟩ := hv (k, v) List.mem_cons_self
    have hlt : ∀ e ∈ o.entries, e.1 < k := fun e he =>
      (List.pairwise_append.1 hs).2.2 e he (k, v) List.mem_cons_self
    have hnew : ∀ e ∈ o.entries, e.1 ≠ k := fun e he => Std.ne_of_lt (hlt e he)
    have hins : o.insert? k v = .ok (o.insert k v hk hvalue hnew) := by
      have hviolation : Identifier.violation? .optionKey k = none := by
        simpa [Identifier.isWellFormed] using hk
      unfold insert?
      split
      · next reason h => simp [hviolation] at h
      · rw [dif_neg hvalue, dif_pos hnew]
    have hentries : (o.insert k v hk hvalue hnew).entries = o.entries ++ [(k, v)] :=
      Text.insertKey_of_lt hlt
    obtain ⟨o', ho', hes⟩ := ih (o.insert k v hk hvalue hnew)
      (by rw [hentries, List.append_assoc]; exact hs)
      (fun e he => hv e (List.mem_cons_of_mem _ he))
    refine ⟨o', ?_, ?_⟩
    · rw [insertAll, hins]
      exact ho'
    · rw [hes, hentries, List.append_assoc]
      rfl

/-- The entries of options make the options again. -/
theorem ofPairs_entries (o : Options) : ofPairs o.entries = .ok o := by
  obtain ⟨o', ho', hes⟩ := entries_insertAll {} o.entries (by simpa using o.sorted) o.valid
  have heq : o' = o := by
    cases o
    cases o'
    simpa using hes
  rw [ofPairs, ho', heq]

end Options

/-! ## Building -/

/-- A request is made by its files, options and rules. -/
theorem Request.ext_parts {r s : Request} (hf : r.files = s.files)
    (ha : r.againstFiles = s.againstFiles) (ho : r.options = s.options)
    (hi : r.ruleIds = s.ruleIds) : r = s := by
  cases r
  cases s
  simp only at hf ha ho hi
  subst hf ha ho hi
  rfl

/-- The request that a builder makes has the parts that were given. -/
theorem RequestBuilder.build_eq_ok_iff {b : RequestBuilder} {r : Request} :
    b.build = .ok r ↔ r.files = b.files ∧ r.againstFiles = b.againstFiles ∧
      r.ruleIds = Text.sortedUnique b.ruleIds ∧ b.options.insertAll b.pairs = .ok r.options := by
  constructor
  · intro h
    unfold build at h
    simp only at h
    split at h
    · cases h
    split at h
    · cases h
    split at h
    · cases h
    split at h
    · cases h
    cases ho : b.options.insertAll b.pairs with
    | error e => simp [ho, bind, Except.bind] at h
    | ok o =>
      rw [ho] at h
      cases h
      exact ⟨rfl, rfl, rfl, rfl⟩
  -- the request carries the proofs that the checks of its parts pass
  · rintro ⟨hf, ha, hi, ho⟩
    have hne : b.files ≠ [] := hf ▸ r.files_ne_nil
    have hnames : checkNames b.files = .ok () := checkNames_eq_ok_iff.2 (hf ▸ r.names_distinct)
    have hagainst : checkNames b.againstFiles = .ok () :=
      checkNames_eq_ok_iff.2 (ha ▸ r.against_distinct)
    have hids : Identifier.checkAll .rule (Text.sortedUnique b.ruleIds) = .ok () :=
      Identifier.checkAll_eq_ok_iff.2 (hi ▸ r.ids_valid)
    unfold build
    simp only
    rw [dif_neg hne]
    split
    · next e h => simp [hnames] at h
    split
    · next e h => simp [hagainst] at h
    split
    · next e h => simp [hids] at h
    rw [ho]
    simp only [bind, Except.bind, pure, Except.pure, Except.ok.injEq]
    exact Request.ext_parts hf.symm ha.symm rfl hi.symm

namespace Request

/-- A request with other rules, in ascending order and well-formed. -/
def withIds (r : Request) (ids : List String) (hs : ids.Pairwise (· < ·))
    (hv : ∀ id ∈ ids, Identifier.isWellFormed .rule id) : Request :=
  { r with ruleIds := ids, ids_sorted := hs, ids_valid := hv }

section

variable {r : Request} {ids : List String} (hs : ids.Pairwise (· < ·))
  (hv : ∀ id ∈ ids, Identifier.isWellFormed .rule id)

/-- A request may be given other rules, sorted and well-formed. -/
theorem withRuleIds_eq : r.withRuleIds ids = .ok (r.withIds ids hs hv) :=
  RequestBuilder.build_eq_ok_iff.2
    ⟨rfl, rfl, (Text.sortedUnique_of_pairwise hs).symm, rfl⟩

/-- The message of a request makes the request, with the rules that the message names. -/
theorem ofMessage_message : ofMessage (r.message ids) = .ok (r.withIds ids hs hv) := by
  have hoptions : Options.ofPairs (r.message ids).options = .ok r.options :=
    Options.ofPairs_entries r.options
  rw [ofMessage, hoptions]
  exact withRuleIds_eq hs hv

end

end Request

/-! ## Splitting -/

section

variable {α : Type} (n : Nat) (as : List α)

/-- The pieces of a list make up the list. -/
theorem flatten_chunks : (chunks n as).flatten = as := by
  fun_induction chunks n as with
  | case1 => rfl
  | case2 a as ih => rw [List.flatten_cons, ih, List.cons_append, List.take_append_drop]

/-- A piece is not empty, and not longer than asked for. -/
theorem length_of_mem_chunks {piece : List α} (h : piece ∈ chunks n as) :
    0 < piece.length ∧ piece.length ≤ n + 1 := by
  fun_induction chunks n as with
  | case1 => cases h
  | case2 a as ih =>
    rcases List.mem_cons.1 h with rfl | h
    · simp only [List.length_cons, List.length_take]
      omega
    · exact ih h

end

namespace Request

/-- The rules that the messages of a request name, message by message. -/
def parts (r : Request) : List (List String) :=
  if r.ruleIds.isEmpty then [[]] else chunks (rulesPerMessage - 1) r.ruleIds

/-- There is one message for each part of the rules. -/
theorem messages_eq_map (r : Request) : r.messages = r.parts.map r.message := by
  unfold messages parts
  split <;> rfl

/-- The messages name all rules of the request, in order and each once. -/
theorem flatten_parts (r : Request) : r.parts.flatten = r.ruleIds := by
  unfold parts
  split
  · next h => simpa using (List.isEmpty_iff.1 h).symm
  · exact flatten_chunks _ _

/-- A message names no rules only when the request names none, and then it is the only one. -/
theorem parts_cases (r : Request) :
    (r.ruleIds = [] ∧ r.parts = [[]]) ∨ (r.ruleIds ≠ [] ∧ ∀ ids ∈ r.parts, ids ≠ []) := by
  unfold parts
  cases h : r.ruleIds with
  | nil => exact .inl ⟨rfl, rfl⟩
  | cons id ids =>
    refine .inr ⟨List.cons_ne_nil _ _, fun part hpart => ?_⟩
    have := (length_of_mem_chunks _ _ hpart).1
    exact List.length_pos_iff.1 this

/-- Every request takes a message. -/
theorem messages_ne_nil (r : Request) : r.messages ≠ [] := by
  rw [messages_eq_map, Ne, List.map_eq_nil_iff]
  intro hparts
  rcases r.parts_cases with ⟨-, hone⟩ | ⟨hne, -⟩
  · cases hparts.symm.trans hone
  · rw [← r.flatten_parts, hparts] at hne
    exact hne rfl

/-- A part names rules of the request, in their order. -/
theorem sublist_of_mem_parts {r : Request} {ids : List String} (h : ids ∈ r.parts) :
    ids.Sublist r.ruleIds := by
  have := List.sublist_flatten_of_mem h
  rwa [flatten_parts] at this

/-- The rules of a part ascend. -/
theorem sorted_of_mem_parts {r : Request} {ids : List String} (h : ids ∈ r.parts) :
    ids.Pairwise (· < ·) :=
  r.ids_sorted.sublist (sublist_of_mem_parts h)

/-- The rules of a part have well-formed identifiers. -/
theorem valid_of_mem_parts {r : Request} {ids : List String} (h : ids ∈ r.parts) :
    ∀ id ∈ ids, Identifier.isWellFormed .rule id :=
  fun id hid => r.ids_valid id ((sublist_of_mem_parts h).subset hid)

end Request

end SchemaCheck
