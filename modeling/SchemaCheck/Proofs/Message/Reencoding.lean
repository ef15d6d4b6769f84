import SchemaCheck.Proofs.Message.Depth

/-!
# Messages that were read are written no deeper

A message may be read from a text that leaves out members with defaults, and is written with them,
so that writing may nest deeper than the text did: an array that was left out is written, empty. It
never matters at the greatest depth. What is read with a budget is written within it
(`Codec.WritesWithin`): a member that can be left out is a scalar, or an array for which the record
around it has a level to spare. Only a message descriptor has none with an odd budget, and files
come to their descriptors with an even one. So every message that was read is read back from what is
written for it (`accepted_messages_settle`).
-/

namespace SchemaCheck

/-- What is read with a budget of nested arrays and objects is written within that budget. -/
def Codec.WritesWithin {α : Type} (c : Codec α) (budget : Nat) : Prop :=
  ∀ j a, c.decode budget j = some a → (c.encode a).depth ≤ budget

namespace Members

/-- Where the values of members come from when they are read: each is the default, or is read from
some value of JSON. -/
def Reads (budget : Nat) : {α : Type} → Members α → α → Prop
  | _, .nil, () => True
  | _, .cons m rest, (a, b) =>
    (m.default? = some a ∨ ∃ j, m.codec.decode budget j = some a) ∧ rest.Reads budget b

/-- Values that are read with a budget, and defaults that are written, are written within it. -/
def WritesWithin (budget : Nat) : {α : Type} → Members α → Prop
  | _, .nil => True
  | _, .cons m rest =>
    m.codec.WritesWithin budget ∧
      (∀ a, m.default? = some a → m.isOmitted a = true ∨ (m.codec.encode a).depth ≤ budget) ∧
      rest.WritesWithin budget

/-- A member that is written with few levels leaves the others to be looked at. -/
theorem writesWithin_cons {α β : Type} {m : Member α} {rest : Members β} {n budget : Nat}
    (hc : m.codec.Shallow n) (hn : n ≤ budget) (hr : rest.WritesWithin budget) :
    (Members.cons m rest).WritesWithin budget :=
  ⟨fun _ a _ => Nat.le_trans (hc a) hn, fun a _ => .inr (Nat.le_trans (hc a) hn), hr⟩

/-- Members that are read out of an object are each the default or read from a value. -/
theorem reads_of_ofObject {budget : Nat} {given : List (Bytes × Json)} :
    ∀ {α : Type} {ms : Members α} {a : α}, ms.ofObject budget given = some a → ms.Reads budget a
  | _, .nil, (), _ => trivial
  | _, .cons m rest, (a, b), h => by
    have hread : ∀ {value : Option _}, (do
        let a ← value
        let b ← rest.ofObject budget given
        some (a, b)) = some (a, b) → value = some a ∧ rest.Reads budget b := by
      intro value hvalue
      obtain ⟨_, ha, hvalue⟩ := Option.bind_eq_some_iff.1 hvalue
      obtain ⟨_, hb, heq⟩ := Option.bind_eq_some_iff.1 hvalue
      cases heq
      exact ⟨ha, reads_of_ofObject hb⟩
    rw [ofObject] at h
    split at h
    · exact ⟨.inl (hread h).1, (hread h).2⟩
    · exact ⟨.inr ⟨_, (hread h).1⟩, (hread h).2⟩
    · cases h

/-- Members that are read out of an array are each read from an item or the default. -/
theorem reads_of_ofArray {budget : Nat} : ∀ {α : Type} {ms : Members α} {js : List Json} {a : α},
    ms.ofArray budget js = some a → ms.Reads budget a
  | _, .nil, [], (), _ => trivial
  | _, .cons m rest, [], (a, b), h => by
    simp only [ofArray, Option.bind_eq_bind, Option.bind_eq_some_iff, Option.some.injEq,
      Prod.mk.injEq] at h
    obtain ⟨_, ha, _, hb, rfl, rfl⟩ := h
    exact ⟨.inl ha, reads_of_ofArray hb⟩
  | _, .cons m rest, j :: js, (a, b), h => by
    simp only [ofArray, Option.bind_eq_bind, Option.bind_eq_some_iff, Option.some.injEq,
      Prod.mk.injEq] at h
    obtain ⟨_, ha, _, hb, rfl, rfl⟩ := h
    exact ⟨.inr ⟨j, ha⟩, reads_of_ofArray hb⟩

/-- Members are written within the budget that they were read with. -/
theorem WritesWithin.depth_le {budget : Nat} : ∀ {α : Type} {ms : Members α} {a : α},
    ms.WritesWithin budget → ms.Reads budget a →
      Json.depthMembers (given (ms.encode a)) ≤ budget
  | _, .nil, (), _, _ => Nat.zero_le budget
  | _, .cons m rest, (a, b), h, hr => by
    obtain ⟨hcodec, hdefault, hrest⟩ := h
    obtain ⟨hread, hreads⟩ := hr
    have ih := hrest.depth_le hreads
    rw [encode]
    split
    · exact ih
    · next homitted =>
      have hdepth : (m.codec.encode a).depth ≤ budget := by
        rcases hread with hread | ⟨j, hread⟩
        · exact (hdefault a hread).resolve_left homitted
        · exact hcodec j a hread
      exact Nat.max_le.2 ⟨hdepth, ih⟩

end Members

namespace Codec

variable {α β : Type} {budget n : Nat}

/-- A codec that always writes few levels writes them within any budget as large. -/
theorem Shallow.writesWithin {c : Codec α} (h : c.Shallow n) (hn : n ≤ budget) :
    c.WritesWithin budget := fun _ a _ => Nat.le_trans (h a) hn

/-- The items of a list are read one by one. -/
theorem exists_of_mem_mapM {f : β → Option α} {js : List β} {as : List α} (h : js.mapM f = some as)
    {a : α} (ha : a ∈ as) : ∃ j, f j = some a := by
  induction js generalizing as with
  | nil =>
    cases h
    cases ha
  | cons j js ih =>
    rw [List.mapM_cons] at h
    obtain ⟨a', hfirst, h⟩ := Option.bind_eq_some_iff.1 h
    obtain ⟨as', hrest, heq⟩ := Option.bind_eq_some_iff.1 h
    cases heq
    rcases List.mem_cons.1 ha with rfl | ha
    · exact ⟨j, hfirst⟩
    · exact ih hrest ha

/-- A list takes one level more than its items. -/
theorem list_writesWithin {c : Codec α} (h : c.WritesWithin budget) :
    (list c).WritesWithin (budget + 1) := by
  intro j as hread
  cases j with
  | array js =>
    have hitems : Json.depthItems (as.map c.encode) ≤ budget := by
      refine Json.depthItems_le_iff.2 fun i hi => ?_
      obtain ⟨a, ha, rfl⟩ := List.mem_map.1 hi
      obtain ⟨j, hj⟩ := exists_of_mem_mapM hread ha
      exact h j a hj
    exact Nat.succ_le_succ hitems
  | _ => cases hread

/-- A list that is empty by default takes one level. -/
theorem default_nil_le {c : Codec α} {omitted : List α → Prop} (h : 1 ≤ budget) :
    ∀ as, some [] = some as → omitted as ∨ ((list c).encode as).depth ≤ budget := by
  intro as heq
  cases heq
  exact .inr h

/-- What a record is read from, if a budget is enough to enter it. -/
theorem reads_of_record_decode {members : Members β} {build : β → α} {parts : α → β} {j : Json}
    {a : α} (h : (record members build parts).decode budget j = some a) :
    ∃ n b, budget = n + 1 ∧ a = build b ∧ members.Reads n b := by
  match budget, j, h with
  | n + 1, .object given, h =>
    simp only [record] at h
    split at h
    · obtain ⟨b, hb, rfl⟩ := Option.map_eq_some_iff.1 h
      exact ⟨n, b, rfl, rfl, Members.reads_of_ofObject hb⟩
    · cases h
  | n + 1, .array js, h =>
    obtain ⟨b, hb, rfl⟩ := Option.map_eq_some_iff.1 h
    exact ⟨n, b, rfl, rfl, Members.reads_of_ofArray hb⟩

/-- Nothing is read of a record without a level for it. -/
theorem record_writesWithin_zero {members : Members β} {build : β → α} {parts : α → β} :
    (record members build parts).WritesWithin 0 := by
  intro j a hread
  obtain ⟨n, -, hn, -⟩ := reads_of_record_decode hread
  cases hn

/-- A record takes one level more than its members. -/
theorem record_writesWithin {members : Members β} {build : β → α} {parts : α → β}
    (h : members.WritesWithin budget) (hparts : ∀ b, parts (build b) = b) :
    (record members build parts).WritesWithin (budget + 1) := by
  intro j a hread
  obtain ⟨n, b, hn, rfl, hreads⟩ := reads_of_record_decode hread
  cases hn
  show Json.depthMembers (Members.given (members.encode (parts (build b)))) + 1 ≤ budget + 1
  rw [hparts]
  exact Nat.succ_le_succ (h.depth_le hreads)

end Codec

open Codec

/-! ## Schema files -/

/-- A field is written within the budget that it was read with. -/
theorem FieldDescriptor.codec_writesWithin (budget : Nat) :
    FieldDescriptor.codec.WritesWithin budget := by
  cases budget with
  | zero => exact record_writesWithin_zero
  | succ budget =>
    have hshallow : FieldDescriptor.codec.Shallow 1 :=
      record_shallow ⟨string_shallow, number_shallow, optional_shallow string_shallow, trivial⟩
    exact hshallow.writesWithin (by omega)

namespace MessageDescriptor

/-- What a message is read from: its fields one level further in, and its nested messages two. -/
theorem exists_of_decode {budget : Nat} {j : Json} {m : MessageDescriptor}
    (h : decode (budget + 2) j = some m) : ∃ name fields nested, m = .mk name fields nested ∧
      ((list FieldDescriptor.codec).encode fields).depth ≤ budget + 1 ∧
      ∀ n ∈ nested, ∃ j, decode budget j = some n := by
  rw [decode] at h
  obtain ⟨⟨name, fields, shells, _⟩, hshell, h⟩ := Option.bind_eq_some_iff.1 h
  obtain ⟨nested, hnested, heq⟩ := Option.bind_eq_some_iff.1 h
  cases heq
  refine ⟨name, fields, nested, rfl, ?_, fun n hn => exists_of_mem_mapM hnested hn⟩
  obtain ⟨n, b, hn, rfl, hreads⟩ := reads_of_record_decode hshell
  cases hn
  obtain ⟨-, hfields, -⟩ := hreads
  rcases hfields with hfields | ⟨j, hfields⟩
  · cases hfields
    exact Nat.succ_le_succ (Nat.zero_le budget)
  · exact list_writesWithin (FieldDescriptor.codec_writesWithin budget) j fields hfields

/-- Several messages are written one by one. -/
theorem encodeAll_eq_map (ms : List MessageDescriptor) : encodeAll ms = ms.map encode := by
  induction ms with
  | nil => rfl
  | cons m ms ih => rw [encodeAll, ih, List.map_cons]

/-- With an even budget messages are written within it. Each message takes two levels, one for
itself and one for the array of those inside it, which is written also when it was left out. -/
theorem codec_writesWithin (k : Nat) : codec.WritesWithin (2 * k) := by
  induction k with
  | zero =>
    intro j m hread
    cases hread
  | succ k ih =>
    intro j m hread
    have hread : decode (2 * k + 2) j = some m := hread
    obtain ⟨name, fields, nested, rfl, hfields, hnested⟩ := exists_of_decode hread
    have hitems : Json.depthItems (encodeAll nested) ≤ 2 * k := by
      rw [encodeAll_eq_map]
      refine Json.depthItems_le_iff.2 (List.forall_mem_map.2 fun n hn => ?_)
      obtain ⟨j, hj⟩ := hnested n hn
      exact ih j n hj
    show (encode _).depth ≤ 2 * k + 2
    rw [encode, depth_shellCodec_encode]
    omega

/-- What a message without a name, and without its array of fields, may be read from when it holds
one other. -/
def around (j : Json) : Json :=
  .object [(Bytes.ofString "name", Json.text ""), (Bytes.ofString "nested_messages", .array [j])]

/-- The shell is read with two levels of the budget, and gives what is in it back unread. -/
theorem shellCodec_decode_around (budget : Nat) (j : Json) :
    shellCodec.decode (budget + 2) (around j) = some ("", [], [j], ()) := by
  simp [shellCodec, record, around, Members.ofObject, string, list, raw, Json.text]

/-- With an odd budget they are not: the innermost message may be read with its last level, and then
none is left for the arrays that it leaves out. -/
theorem not_writesWithin_odd (k : Nat) : ¬ codec.WritesWithin (2 * k + 1) := by
  suffices h : ∃ j m, decode (2 * k + 1) j = some m ∧ 2 * k + 2 ≤ m.encode.depth by
    obtain ⟨j, m, hread, hdepth⟩ := h
    intro hwithin
    have hle : m.encode.depth ≤ 2 * k + 1 := hwithin j m hread
    omega
  induction k with
  | zero => exact ⟨.object [(Bytes.ofString "name", Json.text "")], .mk "" [] [], rfl, by decide⟩
  | succ k ih =>
    obtain ⟨j, m, hread, hdepth⟩ := ih
    refine ⟨around j, .mk "" [] [m], ?_, ?_⟩
    · show decode (2 * k + 1 + 2) (around j) = _
      rw [decode, shellCodec_decode_around]
      simp [hread]
    · rw [encode, depth_shellCodec_encode, encodeAll, encodeAll, Json.depthItems, Json.depthItems]
      omega

end MessageDescriptor

/-- A list of texts takes one level. -/
theorem texts_shallow : (list string).Shallow 1 := list_shallow string_shallow

/-- A file leaves its messages an even budget when it has one. -/
theorem FileDescriptor.codec_writesWithin (k : Nat) :
    FileDescriptor.codec.WritesWithin (2 * k + 4) := by
  have hspan : SourceSpan.codec.Shallow 2 :=
    record_shallow ⟨list_shallow number_shallow, list_shallow number_shallow, string_shallow,
      string_shallow, list_shallow string_shallow, trivial⟩
  have hmessages : (list MessageDescriptor.codec).WritesWithin (2 * k + 3) :=
    list_writesWithin (MessageDescriptor.codec_writesWithin (k + 1))
  refine record_writesWithin ?_ fun _ => rfl
  refine Members.writesWithin_cons string_shallow (Nat.zero_le _) ?_
  refine Members.writesWithin_cons string_shallow (Nat.zero_le _) ?_
  refine Members.writesWithin_cons (optional_shallow string_shallow) (Nat.zero_le _) ?_
  refine Members.writesWithin_cons texts_shallow (by omega) ?_
  refine ⟨hmessages, default_nil_le (by omega), ?_⟩
  exact Members.writesWithin_cons (list_shallow hspan) (by omega) trivial

/-- A file as a check is given it takes one level more. -/
theorem SchemaFile.codec_writesWithin (k : Nat) : SchemaFile.codec.WritesWithin (2 * k + 5) := by
  refine record_writesWithin ?_ fun _ => rfl
  refine ⟨FileDescriptor.codec_writesWithin k, fun _ h => (nomatch h), ?_⟩
  exact Members.writesWithin_cons bool_shallow (Nat.zero_le _) trivial

/-! ## All messages -/

/-- An option holds the list of its bytes. -/
theorem optionCodec_shallow : optionCodec.Shallow 2 :=
  record_shallow ⟨string_shallow, list_shallow number_shallow, trivial⟩

/-- A fault holds text. -/
theorem FaultMessage.codec_shallow : FaultMessage.codec.Shallow 1 :=
  record_shallow ⟨enumeration_shallow, string_shallow, trivial⟩

/-- A request for a check has 127 levels, and its files 125 of them. -/
theorem CheckMessage.codec_writesWithin : CheckMessage.codec.WritesWithin 127 := by
  have hfiles : (list SchemaFile.codec).WritesWithin 126 :=
    list_writesWithin (SchemaFile.codec_writesWithin 60)
  refine record_writesWithin ?_ fun _ => rfl
  refine ⟨hfiles, fun _ h => (nomatch h), ?_⟩
  refine ⟨hfiles, default_nil_le (by decide), ?_⟩
  refine Members.writesWithin_cons (list_shallow optionCodec_shallow) (by decide) ?_
  exact Members.writesWithin_cons texts_shallow (by decide) trivial

/-- Every message that a codec accepts is written no deeper than messages may be, and is accepted
again in the form that is written for it, as the same message. -/
def Codec.Settles {α : Type} (c : Codec α) : Prop :=
  ∀ b a, c.ofBytes b = .ok a →
    (c.encode a).depth ≤ Codec.maxDepth ∧ c.ofBytes (c.toBytes a) = .ok a

/-- A lawful codec settles when it writes what it reads within the budget of a message. -/
theorem Codec.Lawful.settles {α : Type} {c : Codec α} (h : c.Lawful) (hw : c.WritesWithin 127) :
    c.Settles := by
  intro b a hread
  unfold ofBytes at hread
  split at hread
  · next a' hdecode =>
    cases hread
    obtain ⟨j, -, hj⟩ := Option.bind_eq_some_iff.1 hdecode
    have hdepth := hw j a hj
    exact ⟨hdepth, h.reads hdepth⟩
  · cases hread

/-- Every message that is accepted, however its members are ordered, spelled or left out, is
accepted again in the form that is written for it: requests for checks, with their files and
options, findings and their places, pages of rules and of categories with the requests for them, and
faults. -/
theorem accepted_messages_settle :
    CheckMessage.codec.Settles ∧ SchemaFile.codec.Settles ∧ optionCodec.Settles ∧
    CheckReply.codec.Settles ∧ FindingEntry.codec.Settles ∧ Place.codec.Settles ∧
    PageMessage.codec.Settles ∧ rulesReplyCodec.Settles ∧ categoriesReplyCodec.Settles ∧
    RuleEntry.codec.Settles ∧ Category.codec.Settles ∧ FaultMessage.codec.Settles :=
  ⟨CheckMessage.codec_lawful.settles CheckMessage.codec_writesWithin,
    SchemaFile.codec_lawful.settles (SchemaFile.codec_writesWithin 61),
    optionCodec_lawful.settles (optionCodec_shallow.writesWithin (by decide)),
    CheckReply.codec_lawful.settles (CheckReply.codec_shallow.writesWithin (by decide)),
    FindingEntry.codec_lawful.settles (FindingEntry.codec_shallow.writesWithin (by decide)),
    Place.codec_lawful.settles (Place.codec_shallow.writesWithin (by decide)),
    PageMessage.codec_lawful.settles (PageMessage.codec_shallow.writesWithin (by decide)),
    rulesReplyCodec_lawful.settles (rulesReplyCodec_shallow.writesWithin (by decide)),
    categoriesReplyCodec_lawful.settles (categoriesReplyCodec_shallow.writesWithin (by decide)),
    RuleEntry.codec_lawful.settles (RuleEntry.codec_shallow.writesWithin (by decide)),
    Category.codec_lawful.settles (Category.codec_shallow.writesWithin (by decide)),
    FaultMessage.codec_lawful.settles (FaultMessage.codec_shallow.writesWithin (by decide))⟩

end SchemaCheck
