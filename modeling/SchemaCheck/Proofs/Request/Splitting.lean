import Mathlib.Data.List.Flatten
import SchemaCheck.Proofs.Request.Messages

/-!
# Splitting a request and making it again

A request is split into as few messages as their size allows, which name its rules in order, and
none of which asks for the default rules unless the request does (`Request.SplitInto`); each of them
makes the request again, with the rules that it names. The other way round, what a message asks for
is what the messages of its request ask for (`CheckMessage.KeptBy`). `Request.messages_faithful`
says both.
-/

namespace SchemaCheck

/-! ## Numbers of pieces -/

/-- A list is cut into as few pieces as their size allows. -/
theorem length_chunks {α : Type} (n : Nat) (as : List α) :
    (chunks n as).length = (as.length + n) / (n + 1) := by
  fun_induction chunks n as with
  | case1 =>
    simp only [List.length_nil, Nat.zero_add]
    exact (Nat.div_eq_of_lt (Nat.lt_succ_self n)).symm
  | case2 a as ih =>
    have hstep : (as.length + 1 + n) / (n + 1) = as.length / (n + 1) + 1 := by
      rw [Nat.add_assoc, Nat.add_comm 1 n]
      exact Nat.add_div_right _ (Nat.succ_pos n)
    rw [List.length_cons, ih, List.length_drop, List.length_cons, hstep]
    rcases Nat.le_total n as.length with hle | hle
    · rw [Nat.sub_add_cancel hle]
    · rw [Nat.sub_eq_zero_of_le hle, Nat.zero_add, Nat.div_eq_of_lt (Nat.lt_succ_self n),
        Nat.div_eq_of_lt (Nat.lt_succ_of_le hle)]

/-! ## Options in the order of their keys -/

/-- An entry that is put in its place joins those that are there, in another order. -/
theorem Text.perm_insertKey {β : Type} (k : String) (v : β) (es : List (String × β)) :
    (insertKey k v es).Perm ((k, v) :: es) := by
  induction es with
  | nil => exact .refl _
  | cons e es ih =>
    rw [insertKey]
    split
    · exact .refl _
    · exact (ih.cons e).trans (.swap _ _ es)

namespace Options

/-- An entry that is accepted is added to the others. -/
theorem perm_of_insert? {o o' : Options} {k : String} {v : Bytes} (h : o.insert? k v = .ok o') :
    o'.entries.Perm ((k, v) :: o.entries) := by
  unfold insert? at h
  split at h
  · cases h
  · split at h
    · cases h
    · split at h
      · cases h
        exact Text.perm_insertKey k v o.entries
      · cases h

/-- Entries that are accepted are added to the others. -/
theorem perm_of_insertAll {o o' : Options} {es : List (String × Bytes)}
    (h : o.insertAll es = .ok o') : o'.entries.Perm (o.entries ++ es) := by
  induction es generalizing o with
  | nil =>
    cases h
    rw [List.append_nil]
  | cons e es ih =>
    obtain ⟨k, v⟩ := e
    rw [insertAll] at h
    cases hinsert : o.insert? k v with
    | error e => simp [hinsert, bind, Except.bind] at h
    | ok next =>
      rw [hinsert] at h
      exact (ih h).trans (((perm_of_insert? hinsert).append_right es).trans List.perm_middle.symm)

end Options

/-! ## Messages of a request -/

/-- What a request is split into. There are as few messages as can be that name 250 rules at most,
and one when there are no rules. Together they name the rules of the request, in order, and none of
them names no rules unless the request does. Each makes a request with the files and options of the
request and the rules that the message names. -/
structure Request.SplitInto (r : Request) (ms : List CheckMessage) : Prop where
  length : ms.length = max 1 ((r.ruleIds.length + 249) / 250)
  atMost : ∀ m ∈ ms, m.ruleIds.length ≤ 250
  ruleIds_ne_nil : r.ruleIds ≠ [] → ∀ m ∈ ms, m.ruleIds ≠ []
  ruleIds : ms.flatMap CheckMessage.ruleIds = r.ruleIds
  rebuilt : ∀ m ∈ ms, ∃ part, Request.ofMessage m = .ok part ∧ part.files = r.files ∧
    part.againstFiles = r.againstFiles ∧ part.options = r.options ∧ part.ruleIds = m.ruleIds

/-- What messages keep of one message: its files, its options in the order of their keys, and the
rules that it names. -/
structure CheckMessage.KeptBy (m : CheckMessage) (ms : List CheckMessage) : Prop where
  ne_nil : ms ≠ []
  files : ∀ other ∈ ms, other.files = m.files
  againstFiles : ∀ other ∈ ms, other.againstFiles = m.againstFiles
  options : ∀ other ∈ ms, other.options.Perm m.options ∧
    other.options.Pairwise fun a b => a.1 < b.1
  ruleIds : ∀ id, id ∈ ms.flatMap CheckMessage.ruleIds ↔ id ∈ m.ruleIds

namespace Request

variable {r : Request}

/-- The parts of a request are as few as can be. -/
theorem length_parts (r : Request) :
    r.parts.length = max 1 ((r.ruleIds.length + 249) / 250) := by
  unfold parts
  cases hids : r.ruleIds with
  | nil => rfl
  | cons id ids =>
    have hone : 1 ≤ ((id :: ids).length + 249) / 250 := by
      rw [List.length_cons]
      omega
    rw [Nat.max_eq_right hone]
    exact length_chunks 249 (id :: ids)

/-- A part has no more rules than a message may name. -/
theorem length_le_of_mem_parts {ids : List String} (h : ids ∈ r.parts) : ids.length ≤ 250 := by
  unfold parts at h
  split at h
  · rw [List.mem_singleton.1 h]
    exact Nat.zero_le _
  · exact (length_of_mem_chunks _ _ h).2

/-- The rules that the messages of a request name are its rules. -/
theorem flatMap_messages (r : Request) : r.messages.flatMap CheckMessage.ruleIds = r.ruleIds := by
  rw [messages_eq_map, List.flatMap_map, ← r.flatten_parts, ← List.flatMap_id']
  rfl

/-- The messages of a request split it. -/
theorem splitInto_messages (r : Request) : r.SplitInto r.messages := by
  have hmem : ∀ m ∈ r.messages, ∃ ids ∈ r.parts, r.message ids = m := by
    intro m hm
    rw [messages_eq_map] at hm
    exact List.mem_map.1 hm
  refine ⟨?_, fun m hm => ?_, fun hne m hm => ?_, r.flatMap_messages, fun m hm => ?_⟩
  · rw [messages_eq_map, List.length_map, length_parts]
  · obtain ⟨ids, hids, rfl⟩ := hmem m hm
    exact length_le_of_mem_parts hids
  · obtain ⟨ids, hids, rfl⟩ := hmem m hm
    rcases r.parts_cases with ⟨hnil, -⟩ | ⟨-, hparts⟩
    · exact absurd hnil hne
    · exact hparts ids hids
  · obtain ⟨ids, hids, rfl⟩ := hmem m hm
    exact ⟨_, ofMessage_message (sorted_of_mem_parts hids) (valid_of_mem_parts hids), rfl, rfl,
      rfl, rfl⟩

/-- The messages of the request that a message makes keep what the message asks for. -/
theorem keptBy_messages {m : CheckMessage} (h : ofMessage m = .ok r) : m.KeptBy r.messages := by
  rw [ofMessage] at h
  cases hoptions : Options.ofPairs m.options with
  | error e => simp [hoptions, bind, Except.bind] at h
  | ok options =>
    rw [hoptions] at h
    obtain ⟨hfiles, hagainst, hids, hsame⟩ := RequestBuilder.build_eq_ok_iff.1 h
    obtain rfl : options = r.options := Except.ok.inj hsame
    have hmem : ∀ other ∈ r.messages, ∃ ids ∈ r.parts, r.message ids = other := by
      intro other hother
      rw [messages_eq_map] at hother
      exact List.mem_map.1 hother
    refine ⟨fun hnil => ?_, fun other hother => ?_, fun other hother => ?_, fun other hother => ?_,
      fun id => ?_⟩
    · have hlength := r.splitInto_messages.length
      rw [hnil, List.length_nil] at hlength
      omega
    · obtain ⟨ids, -, rfl⟩ := hmem other hother
      exact hfiles
    · obtain ⟨ids, -, rfl⟩ := hmem other hother
      exact hagainst
    · obtain ⟨ids, -, rfl⟩ := hmem other hother
      exact ⟨Options.perm_of_insertAll hoptions, r.options.sorted⟩
    · rw [flatMap_messages, hids]
      exact Text.mem_sortedUnique

/-- Every request is one that a builder makes, and is split into messages that make it again, part
by part; and every message that makes a request is kept by the messages of this request. -/
theorem messages_faithful :
    (∀ r : Request, (∃ b : RequestBuilder, b.build = .ok r) ∧ r.SplitInto r.messages) ∧
      ∀ (m : CheckMessage) (r : Request), ofMessage m = .ok r → m.KeptBy r.messages :=
  ⟨fun r => ⟨⟨_, withRuleIds_eq r.ids_sorted r.ids_valid⟩, r.splitInto_messages⟩,
    fun _ _ h => keptBy_messages h⟩

end Request

end SchemaCheck
