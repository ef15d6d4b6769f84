import SchemaCheck.Proofs.Message.Reencoding
import SchemaCheck.Proofs.Message.Spelling

/-!
# Messages in any spelling

Every message is a record, and so is every part of one that has members (`Codec.IsRecord`), that of
a message descriptor too, one of whose members holds descriptors
(`MessageDescriptor.codec_eq_recordCodec`). So a message is read from every text of each of its
spellings, and from no text of a misspelling (`messages_in_any_spelling`).
-/

namespace SchemaCheck

open Codec

/-! ## Records -/

namespace Members

/-- Members that are left out of an object would be written with no more than a number of levels. -/
def OmitsWithin (n : Nat) : {α : Type} → Members α → Prop
  | _, .nil => True
  | _, .cons m rest =>
    (∀ a, m.isOmitted a = true → (m.codec.encode a).depth ≤ n) ∧ rest.OmitsWithin n

/-- All members are nested no deeper than those that are written, or those that are not. -/
theorem OmitsWithin.depthItems_row_le {n : Nat} : ∀ {α : Type} {ms : Members α},
    ms.OmitsWithin n →
    ∀ b, Json.depthItems (ms.row b) ≤ max n (Json.depthMembers (given (ms.encode b)))
  | _, .nil, _, () => Nat.zero_le _
  | _, .cons m rest, h, (a, b) => by
    obtain ⟨homitted, hrest⟩ := h
    have ih := hrest.depthItems_row_le b
    have hrow : Json.depthItems ((Members.cons m rest).row (a, b)) =
        max (m.codec.encode a).depth (Json.depthItems (rest.row b)) := rfl
    rw [hrow, encode]
    split
    · next ha => exact Nat.max_le.2 ⟨Nat.le_trans (homitted a ha) (Nat.le_max_left _ _), ih⟩
    · rw [depthMembers_given_cons]
      dsimp only
      omega

/-- A member that is written is as deep as all of them at least. -/
theorem le_depthMembers_cons {α β : Type} {m : Member α} {rest : Members β} {n : Nat} {a : α}
    {b : β} (h : n ≤ Json.depthMembers (given (rest.encode b))) :
    n ≤ Json.depthMembers (given ((Members.cons m rest).encode (a, b))) := by
  rw [encode]
  split
  · exact h
  · exact Nat.le_trans h (Nat.le_max_right _ _)

end Members

/-- A codec is that of a record. -/
def Codec.IsRecord {α : Type} (c : Codec α) : Prop :=
  ∃ (β : Type) (members : Members β) (build : β → α) (parts : α → β),
    c = .record members build parts ∧ members.Orderly build parts

/-- A codec is that of a record when its names differ, its parts make the value, and what is left
out is no deeper than what is always written. -/
theorem Codec.isRecord_of_omitsWithin {α β : Type} {members : Members β} {build : β → α}
    {parts : α → β} {n : Nat} (hnames : members.names.Nodup) (hparts : ∀ a, build (parts a) = a)
    (homits : members.OmitsWithin n)
    (hwritten : ∀ b, n ≤ Json.depthMembers (Members.given (members.encode b))) :
    (Codec.record members build parts).IsRecord :=
  ⟨β, members, build, parts, rfl, hnames, hparts, fun b =>
    Nat.le_trans (homits.depthItems_row_le b) (Nat.max_le.2 ⟨hwritten b, Nat.le_refl _⟩)⟩

/-! ## Message descriptors -/

namespace MessageDescriptor

/-- The members of a message, with nested messages as such. -/
def members : Members (String × List FieldDescriptor × List MessageDescriptor × Unit) :=
  .cons { name := "name", codec := .string } <|
    .cons { name := "fields", codec := .list FieldDescriptor.codec, default? := some [] } <|
    .cons { name := "nested_messages", codec := .list codec, default? := some [] } .nil

/-- The codec of messages as that of a record, one of whose members holds messages. -/
def recordCodec : Codec MessageDescriptor :=
  .record members (fun (name, fields, nested, ()) => .mk name fields nested)
    (fun m => (m.name, m.fields, m.nested, ()))

/-- A message is written as the record of its members is: those inside it one by one. -/
theorem encode_eq_recordCodec (m : MessageDescriptor) : m.encode = recordCodec.encode m := by
  cases m with
  | mk name fields nested =>
    have hnested : (list raw).encode (encodeAll nested) = (list codec).encode nested := by
      show Json.array ((encodeAll nested).map id) = .array (nested.map encode)
      rw [List.map_id, encodeAll_eq_map]
    have hshell : (MessageDescriptor.mk name fields nested).encode = Json.ofMembers
        [("name", string.encode name), ("fields", (list FieldDescriptor.codec).encode fields),
          ("nested_messages", (list raw).encode (encodeAll nested))] := by
      rw [encode]
      rfl
    rw [hshell, hnested]
    rfl

/-- Reading the nested messages can wait until all members are there. -/
theorem bind_parts (post : List Json → Option (List MessageDescriptor)) (name : Option String)
    (fields : Option (List FieldDescriptor)) (nested : Option (List Json)) (rest : Option Unit) :
    ((Option.map id (name.bind fun a => (fields.bind fun b => (nested.bind fun c =>
      rest.bind fun d => some (c, d)).bind fun b' => some (b, b')).bind fun a' =>
        some (a, a'))).bind fun shell =>
          (post shell.2.2.1).map (MessageDescriptor.mk shell.1 shell.2.1)) =
      (name.bind fun a => (fields.bind fun b => ((nested.bind post).bind fun c =>
        rest.bind fun d => some (c, d)).bind fun b' => some (b, b')).bind fun a' =>
          some (a, a')).map fun m => MessageDescriptor.mk m.1 m.2.1 m.2.2.1 := by
  cases name with
  | none => rfl
  | some name =>
    cases fields with
    | none => rfl
    | some fields =>
      cases nested with
      | none => rfl
      | some nested => cases rest <;> cases h : post nested <;> simp [h]

section

variable {budget : Nat} (post : List Json → Option (List MessageDescriptor))
  (hnil : post [] = some [])
  (hlist : ∀ j, (list codec).decode budget j = ((list raw).decode budget j).bind post)

include hnil hlist

/-- A message is read as the record is when the values of its array of nested messages are. -/
theorem shellCodec_decode_bind (j : Json) :
    ((shellCodec.decode (budget + 1) j).bind fun shell =>
      (post shell.2.2.1).map (MessageDescriptor.mk shell.1 shell.2.1)) =
      recordCodec.decode (budget + 1) j := by
  cases j with
  | object spelled =>
    have hnested : ∀ named : List (Bytes × Json),
        Member.ofNamed { name := "nested_messages", codec := .list codec, default? := some [] }
          budget named =
        (Member.ofNamed { name := "nested_messages", codec := .list raw, default? := some [] }
          budget named).bind post := by
      intro named
      match named with
      | [] => exact hnil.symm
      | [(_, j)] => exact hlist j
      | _ :: _ :: _ => rfl
    simp only [shellCodec, recordCodec, record, members, Members.ofObject_cons, hnested]
    split
    · exact bind_parts _ _ _ _ _
    · rfl
  | array js =>
    have hnested : ∀ item : Option Json,
        Member.ofItem { name := "nested_messages", codec := .list codec, default? := some [] }
          budget item =
        (Member.ofItem { name := "nested_messages", codec := .list raw, default? := some [] }
          budget item).bind post := by
      intro item
      cases item with
      | none => exact hnil.symm
      | some j => exact hlist j
    simp only [shellCodec, recordCodec, record, members, Members.ofArray_cons, hnested]
    exact bind_parts _ _ _ _ _
  | _ => rfl

end

/-- A message is read as the record of its members is. With a budget of one level there is none left
for messages inside it, so there must be none. -/
theorem decode_eq_recordCodec (budget : Nat) (j : Json) :
    decode budget j = recordCodec.decode budget j := by
  match budget with
  | 0 => cases j <;> rfl
  | 1 =>
    rw [← shellCodec_decode_bind (fun js => if js.isEmpty then some [] else none) rfl
      fun j => by cases j <;> rfl, decode]
    refine congrArg _ (funext fun shell => ?_)
    obtain ⟨name, fields, nested, -⟩ := shell
    cases nested <;> rfl
  | budget + 2 =>
    rw [← shellCodec_decode_bind (fun js => js.mapM (decode budget)) rfl]
    · rw [decode]
      refine congrArg _ (funext fun shell => ?_)
      obtain ⟨name, fields, nested, -⟩ := shell
      show (nested.mapM (decode budget)).bind _ = _
      cases nested.mapM (decode budget) <;> rfl
    · intro j
      cases j with
      | array js => rw [list_raw_decode]; rfl
      | _ => rfl

/-- The codec of messages is that of the record of their members. -/
theorem codec_eq_recordCodec : codec = recordCodec := by
  have hencode : codec.encode = recordCodec.encode := funext encode_eq_recordCodec
  have hdecode : codec.decode = recordCodec.decode :=
    funext fun budget => funext (decode_eq_recordCodec budget)
  calc codec = ⟨codec.encode, codec.decode⟩ := rfl
    _ = ⟨recordCodec.encode, recordCodec.decode⟩ := by rw [hencode, hdecode]
    _ = recordCodec := rfl

end MessageDescriptor

/-- Messages are records, no member of which is left out when they are written. -/
theorem MessageDescriptor.codec_isRecord : MessageDescriptor.codec.IsRecord := by
  rw [MessageDescriptor.codec_eq_recordCodec]
  refine isRecord_of_omitsWithin (n := 0) (by decide) (fun m => ?_) ⟨nofun, nofun, nofun, trivial⟩
    fun _ => Nat.zero_le _
  cases m
  rfl

/-! ## All messages -/

/-- A value that is not there takes no levels. -/
theorem Codec.depth_of_isNone {α : Type} {c : Codec α} {n : Nat} (o : Option α)
    (h : o.isNone = true) : ((optional c).encode o).depth ≤ n := by
  rw [Option.isNone_iff_eq_none.1 h]
  exact Nat.zero_le n

/-- A list that is empty takes one level. -/
theorem Codec.depth_of_isEmpty {α : Type} {c : Codec α} (as : List α) (h : as.isEmpty = true) :
    ((list c).encode as).depth ≤ 1 := by
  rw [List.isEmpty_iff.1 h]
  exact Nat.le_refl 1

/-- Spans are records. -/
theorem SourceSpan.codec_isRecord : SourceSpan.codec.IsRecord :=
  -- the path is always written
  isRecord_of_omitsWithin (n := 1) (by decide) (fun _ => rfl)
    ⟨nofun, nofun, fun _ _ => Nat.zero_le _, fun _ _ => Nat.zero_le _, depth_of_isEmpty, trivial⟩
    fun _ => Nat.le_trans (Nat.succ_le_succ (Nat.zero_le _)) (Nat.le_max_left _ _)

/-- Fields are records. -/
theorem FieldDescriptor.codec_isRecord : FieldDescriptor.codec.IsRecord :=
  isRecord_of_omitsWithin (n := 0) (by decide) (fun _ => rfl)
    ⟨nofun, nofun, depth_of_isNone, trivial⟩ fun _ => Nat.zero_le _

/-- Files are records, though they hold messages of any depth. -/
theorem FileDescriptor.codec_isRecord : FileDescriptor.codec.IsRecord := by
  refine isRecord_of_omitsWithin (n := 1) (by decide) (fun _ => rfl)
    ⟨nofun, fun _ _ => Nat.zero_le _, depth_of_isNone, depth_of_isEmpty, nofun, nofun, trivial⟩
    fun b => ?_
  -- the messages are always written
  obtain ⟨name, package, dialect, dependencies, messages, spans, -⟩ := b
  refine Members.le_depthMembers_cons (Members.le_depthMembers_cons
    (Members.le_depthMembers_cons (Members.le_depthMembers_cons ?_)))
  exact Nat.le_trans (Nat.succ_le_succ (Nat.zero_le _)) (Nat.le_max_left _ _)

/-- Files of a schema are records. -/
theorem SchemaFile.codec_isRecord : SchemaFile.codec.IsRecord :=
  isRecord_of_omitsWithin (n := 0) (by decide) (fun _ => rfl) ⟨nofun, nofun, trivial⟩
    fun _ => Nat.zero_le _

/-- Options are records. -/
theorem optionCodec_isRecord : optionCodec.IsRecord :=
  isRecord_of_omitsWithin (n := 0) (by decide) (fun _ => rfl) ⟨nofun, nofun, trivial⟩
    fun _ => Nat.zero_le _

/-- Places are records. -/
theorem Place.codec_isRecord : Place.codec.IsRecord :=
  isRecord_of_omitsWithin (n := 0) (by decide) (fun _ => rfl) ⟨nofun, nofun, trivial⟩
    fun _ => Nat.zero_le _

/-- Findings are records. -/
theorem FindingEntry.codec_isRecord : FindingEntry.codec.IsRecord :=
  isRecord_of_omitsWithin (n := 0) (by decide) (fun _ => rfl)
    ⟨nofun, nofun, depth_of_isNone, depth_of_isNone, trivial⟩ fun _ => Nat.zero_le _

/-- Requests for a check are records. -/
theorem CheckMessage.codec_isRecord : CheckMessage.codec.IsRecord :=
  isRecord_of_omitsWithin (n := 0) (by decide) (fun _ => rfl) ⟨nofun, nofun, nofun, nofun, trivial⟩
    fun _ => Nat.zero_le _

/-- Replies to a check are records. -/
theorem CheckReply.codec_isRecord : CheckReply.codec.IsRecord :=
  isRecord_of_omitsWithin (n := 0) (by decide) (fun _ => rfl) ⟨nofun, trivial⟩
    fun _ => Nat.zero_le _

/-- Requests for a page are records. -/
theorem PageMessage.codec_isRecord : PageMessage.codec.IsRecord :=
  isRecord_of_omitsWithin (n := 0) (by decide) (fun _ => rfl) ⟨nofun, nofun, trivial⟩
    fun _ => Nat.zero_le _

/-- Pages are records, whatever is on them, unless their entries have the name of the token. -/
theorem PageReply.codec_isRecord {α : Type} {name : String} (entry : Codec α)
    (hn : name ≠ "next_page_token") : (PageReply.codec name entry).IsRecord :=
  isRecord_of_omitsWithin (n := 0) (by simpa [Members.names] using hn.symm) (fun _ => rfl)
    ⟨nofun, nofun, trivial⟩ fun _ => Nat.zero_le _

/-- Rules are records. -/
theorem RuleEntry.codec_isRecord : RuleEntry.codec.IsRecord :=
  isRecord_of_omitsWithin (n := 0) (by decide) (fun _ => rfl)
    ⟨nofun, nofun, nofun, nofun, nofun, nofun, nofun, trivial⟩ fun _ => Nat.zero_le _

/-- Categories are records. -/
theorem Category.codec_isRecord : Category.codec.IsRecord :=
  isRecord_of_omitsWithin (n := 0) (by decide) (fun _ => rfl) ⟨nofun, nofun, nofun, nofun, trivial⟩
    fun _ => Nat.zero_le _

/-- Faults are records. -/
theorem FaultMessage.codec_isRecord : FaultMessage.codec.IsRecord :=
  isRecord_of_omitsWithin (n := 0) (by decide) (fun _ => rfl) ⟨nofun, nofun, trivial⟩
    fun _ => Nat.zero_le _

/-- A codec reads each value, if what it writes for the value is nested no deeper than messages may
be, from every text of every spelling of the value, of which what it writes is one; and no text of a
misspelling. Its values are those of a record, so objects and arrays are spelled as `Codec.Spells`
says. -/
structure Codec.ReadsAnySpelling {α : Type} (c : Codec α) : Prop where
  isRecord : c.IsRecord
  written : ∀ a, c.Spells a (c.encode a) ∧ (c.encode a).HasText (c.toBytes a)
  reads : ∀ a j b, (c.encode a).depth ≤ 127 → c.Spells a j → j.HasText b → c.ofBytes b = .ok a
  refuses : ∀ j b, c.Misspelled j → j.HasText b → ∃ detail, c.ofBytes b = .error (.json detail)

/-- A lawful codec of a record reads every spelling of a value and refuses every misspelling. -/
theorem Codec.Lawful.readsAnySpelling {α : Type} {c : Codec α} (h : c.Lawful) (hr : c.IsRecord) :
    c.ReadsAnySpelling where
  isRecord := hr
  written a := ⟨.itself h, Json.hasText_print _ (h.plain a)⟩
  reads a j b hd hj hb := by
    unfold ofBytes
    rw [Json.parse?_of_hasText hb, Option.bind_some, hj.decode_eq maxDepth hd]
  refuses j b hj hb := by
    unfold ofBytes
    rw [Json.parse?_of_hasText hb, Option.bind_some, hj.decode_eq_none]
    exact ⟨_, rfl⟩

/-- Every message and every part of a message is read from any spelling of it: with the members of
objects in any order, among others that are not known, without those that hold their default, with
records as arrays, and with white space anywhere. It is not read when a member is given twice, when
one without a default is left out, or when one that is not optional is null. -/
theorem messages_in_any_spelling :
    CheckMessage.codec.ReadsAnySpelling ∧ CheckReply.codec.ReadsAnySpelling ∧
    PageMessage.codec.ReadsAnySpelling ∧ rulesReplyCodec.ReadsAnySpelling ∧
    categoriesReplyCodec.ReadsAnySpelling ∧ FaultMessage.codec.ReadsAnySpelling ∧
    SchemaFile.codec.ReadsAnySpelling ∧ FileDescriptor.codec.ReadsAnySpelling ∧
    MessageDescriptor.codec.ReadsAnySpelling ∧ FieldDescriptor.codec.ReadsAnySpelling ∧
    SourceSpan.codec.ReadsAnySpelling ∧ optionCodec.ReadsAnySpelling ∧
    FindingEntry.codec.ReadsAnySpelling ∧ Place.codec.ReadsAnySpelling ∧
    RuleEntry.codec.ReadsAnySpelling ∧ Category.codec.ReadsAnySpelling :=
  ⟨CheckMessage.codec_lawful.readsAnySpelling CheckMessage.codec_isRecord,
    CheckReply.codec_lawful.readsAnySpelling CheckReply.codec_isRecord,
    PageMessage.codec_lawful.readsAnySpelling PageMessage.codec_isRecord,
    rulesReplyCodec_lawful.readsAnySpelling (PageReply.codec_isRecord _ (by decide)),
    categoriesReplyCodec_lawful.readsAnySpelling (PageReply.codec_isRecord _ (by decide)),
    FaultMessage.codec_lawful.readsAnySpelling FaultMessage.codec_isRecord,
    SchemaFile.codec_lawful.readsAnySpelling SchemaFile.codec_isRecord,
    FileDescriptor.codec_lawful.readsAnySpelling FileDescriptor.codec_isRecord,
    MessageDescriptor.codec_lawful.readsAnySpelling MessageDescriptor.codec_isRecord,
    FieldDescriptor.codec_lawful.readsAnySpelling FieldDescriptor.codec_isRecord,
    SourceSpan.codec_lawful.readsAnySpelling SourceSpan.codec_isRecord,
    optionCodec_lawful.readsAnySpelling optionCodec_isRecord,
    FindingEntry.codec_lawful.readsAnySpelling FindingEntry.codec_isRecord,
    Place.codec_lawful.readsAnySpelling Place.codec_isRecord,
    RuleEntry.codec_lawful.readsAnySpelling RuleEntry.codec_isRecord,
    Category.codec_lawful.readsAnySpelling Category.codec_isRecord⟩

end SchemaCheck
