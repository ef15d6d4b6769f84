import SchemaCheck.Message.Check
import SchemaCheck.Message.Listing
import SchemaCheck.Message.Method
import SchemaCheck.Proofs.Message.Lawful

/-!
# Messages are read back

`messages_read_back`: every message, and every part of one, is read back from the bytes it is
written in when these nest no more than 127 arrays and objects, and refused when they nest more. All
codecs but that of message descriptors are put together from lawful ones. A message descriptor holds
others, so its codec calls itself; `MessageDescriptor.decode_encode` goes by induction on the
descriptor, with the budget that its array of nested messages leaves.
-/

namespace SchemaCheck

/-- A list without duplicates among its names and a lawful codec for each member, one by one. -/
theorem Members.lawful_cons {α β : Type} {m : Member α} {rest : Members β} (hc : m.codec.Lawful)
    (ho : ∀ a, m.isOmitted a = true → m.default? = some a) (hn : m.name ∉ rest.names)
    (hr : rest.Lawful) : (Members.cons m rest).Lawful :=
  ⟨hc, ho, hn, hr⟩

/-- An empty text is the default of a text that is left out when it is empty. -/
theorem default_of_isEmpty (s : String) (h : s.isEmpty = true) : some "" = some s := by
  rw [String.isEmpty_iff.1 h]

/-- An empty list is the default of a list that is left out when it is empty. -/
theorem default_of_isEmpty_list {α : Type} (as : List α) (h : as.isEmpty = true) :
    some [] = some as := by
  rw [List.isEmpty_iff.1 h]

/-- An absent value is the default of a value that is left out when it is absent. -/
theorem default_of_isNone {α : Type} (o : Option α) (h : o.isNone = true) : some none = some o := by
  rw [Option.isNone_iff_eq_none.1 h]

open Codec

/-! ## Schema files -/

/-- Paths are read back. -/
theorem SourcePath.codec_lawful : SourcePath.codec.Lawful := list_lawful int32_lawful

/-- Spans are read back. -/
theorem SourceSpan.codec_lawful : SourceSpan.codec.Lawful := by
  refine record_lawful ?_ fun _ => rfl
  refine Members.lawful_cons SourcePath.codec_lawful (by simp) (by decide) ?_
  refine Members.lawful_cons (list_lawful int32_lawful) (by simp) (by decide) ?_
  refine Members.lawful_cons string_lawful default_of_isEmpty (by decide) ?_
  refine Members.lawful_cons string_lawful default_of_isEmpty (by decide) ?_
  exact Members.lawful_cons (list_lawful string_lawful) default_of_isEmpty_list (by decide) trivial

/-- Fields are read back. -/
theorem FieldDescriptor.codec_lawful : FieldDescriptor.codec.Lawful := by
  refine record_lawful ?_ fun _ => rfl
  refine Members.lawful_cons string_lawful (by simp) (by decide) ?_
  refine Members.lawful_cons int32_lawful (by simp) (by decide) ?_
  exact Members.lawful_cons (optional_lawful string_lawful fun _ => Json.noConfusion)
    default_of_isNone (by decide) trivial

namespace MessageDescriptor

/-- A message is nested one level deeper than its fields, and two deeper than those inside it. -/
theorem depth_shellCodec_encode (name : String) (fields : List FieldDescriptor)
    (nested : List Json) :
    (shellCodec.encode (name, fields, nested, ())).depth
      = max ((list FieldDescriptor.codec).encode fields).depth
        (Json.depthItems nested + 1) + 1 := by
  have hdepth : (shellCodec.encode (name, fields, nested, ())).depth
      = max 0 (max ((list FieldDescriptor.codec).encode fields).depth
        (max (Json.depthItems (nested.map id) + 1) 0)) + 1 := rfl
  rw [hdepth, List.map_id, Nat.zero_max, Nat.max_zero]

/-- A message is read member by member. -/
theorem shellCodec_decode_encode (budget : Nat) (name : String) (fields : List FieldDescriptor)
    (nested : List Json) :
    shellCodec.decode (budget + 1) (shellCodec.encode (name, fields, nested, ()))
      = (do
        let name ← string.decode budget (string.encode name)
        let fields ← (list FieldDescriptor.codec).decode budget
          ((list FieldDescriptor.codec).encode fields)
        let nested ← (list raw).decode budget ((list raw).encode nested)
        some (name, fields, nested, ())) := by
  rw [shellCodec, record_decode_encode, Option.map_id, id, ← List.nil_append (Members.encode _ _),
    Members.ofObject_of_written (by decide) (by simp) budget _ rfl,
    Members.ofObject_of_written (by decide) (by simp) budget _ rfl,
    Members.ofObject_of_written (by decide) (by simp) budget _ rfl]
  simp only [Members.ofObject, id, Option.bind_eq_bind, Option.bind_assoc, Option.bind_some]

/-- An array of any values is read as it stands. -/
theorem list_raw_decode (budget : Nat) (js : List Json) :
    (list raw).decode (budget + 1) (.array js) = some js := by
  show js.mapM (fun j => (pure (id j) : Option Json)) = some js
  rw [List.mapM_pure, List.map_id]
  rfl

/-- Nested messages are handed on as they stand, once the array that holds them is entered. -/
theorem shellCodec_decode (budget : Nat) (name : String) (fields : List FieldDescriptor)
    (nested : List Json) :
    shellCodec.decode (budget + 2) (shellCodec.encode (name, fields, nested, ()))
      = if ((list FieldDescriptor.codec).encode fields).depth ≤ budget + 1
        then some (name, fields, nested, ()) else none := by
  have hname : string.decode (budget + 1) (string.encode name) = some name := by
    simp [string, Json.text]
  have hfields := (list_lawful FieldDescriptor.codec_lawful).decode_encode fields (budget + 1)
  have hnested : (list raw).decode (budget + 1) ((list raw).encode nested) = some nested := by
    show (list raw).decode (budget + 1) (.array (nested.map id)) = some nested
    rw [List.map_id, list_raw_decode]
  rw [shellCodec_decode_encode, hname, hfields, hnested]
  by_cases h : ((list FieldDescriptor.codec).encode fields).depth ≤ budget + 1
  · rw [if_pos h, if_pos h]
    rfl
  · rw [if_neg h, if_neg h]
    rfl

/-- One level is not enough: the array of nested messages is always written. -/
theorem shellCodec_decode_one (name : String) (fields : List FieldDescriptor)
    (nested : List Json) :
    shellCodec.decode 1 (shellCodec.encode (name, fields, nested, ())) = none := by
  have hfields : (list FieldDescriptor.codec).decode 0 ((list FieldDescriptor.codec).encode fields)
      = none := rfl
  rw [shellCodec_decode_encode, hfields]
  cases string.decode 0 (string.encode name) <;> rfl

mutual

/-- A message is read back when the budget covers its fields and its nested messages. -/
theorem decode_encode : ∀ (m : MessageDescriptor) (budget : Nat),
    decode budget m.encode = if m.encode.depth ≤ budget then some m else none
  | .mk name fields nested, 0 => by
    rw [encode, depth_shellCodec_encode, if_neg (by omega), decode]
  | .mk name fields nested, 1 => by
    rw [encode, depth_shellCodec_encode, if_neg (by omega), decode, shellCodec_decode_one]
    rfl
  | .mk name fields nested, budget + 2 => by
    have hnested : (encodeAll nested).mapM (decode budget)
        = if Json.depthItems (encodeAll nested) + 1 ≤ budget + 1 then some nested else none := by
      simpa using mapM_decode_encodeAll nested budget
    have hread : decode (budget + 2) (MessageDescriptor.mk name fields nested).encode
        = ((if ((list FieldDescriptor.codec).encode fields).depth ≤ budget + 1
            then some fields else none) >>= fun fields =>
          (encodeAll nested).mapM (decode budget) >>= fun nested =>
            some (.mk name fields nested)) := by
      rw [encode, decode, shellCodec_decode]
      split <;> rfl
    rw [hread, hnested, bind_if_le fields nested (MessageDescriptor.mk name), encode,
      depth_shellCodec_encode]
    simp only [Nat.add_le_add_iff_right]

/-- `decode_encode` over the messages of a list. -/
theorem mapM_decode_encodeAll : ∀ (ms : List MessageDescriptor) (budget : Nat),
    (encodeAll ms).mapM (decode budget)
      = if Json.depthItems (encodeAll ms) ≤ budget then some ms else none
  | [], budget => by simp [encodeAll, Json.depthItems]
  | m :: ms, budget => by
    rw [encodeAll, List.mapM_cons, decode_encode m, mapM_decode_encodeAll ms, Json.depthItems]
    exact bind_if_le m ms List.cons

end

mutual

/-- What is written of a message is plain. -/
theorem plain_encode : ∀ m : MessageDescriptor, m.encode.IsPlain
  | .mk name fields nested => by
    have hfields := (list_lawful FieldDescriptor.codec_lawful).plain fields
    have hnested := plain_encodeAll nested
    rw [encode]
    simpa [shellCodec, record, Members.encode, Json.ofMembers, string, raw, list, Json.text,
      Json.IsPlain, Json.MembersPlain] using ⟨hfields, hnested⟩

/-- `plain_encode` over the messages of a list. -/
theorem plain_encodeAll : ∀ ms : List MessageDescriptor, Json.ArePlain (encodeAll ms)
  | [] => trivial
  | m :: ms => ⟨plain_encode m, plain_encodeAll ms⟩

end

/-- Messages are read back, however deep they are nested within the budget. -/
theorem codec_lawful : codec.Lawful := ⟨plain_encode, decode_encode⟩

end MessageDescriptor

/-- Files are read back. -/
theorem FileDescriptor.codec_lawful : FileDescriptor.codec.Lawful := by
  refine record_lawful ?_ fun _ => rfl
  refine Members.lawful_cons string_lawful (by simp) (by decide) ?_
  refine Members.lawful_cons string_lawful default_of_isEmpty (by decide) ?_
  refine Members.lawful_cons (optional_lawful string_lawful fun _ => Json.noConfusion)
    default_of_isNone (by decide) ?_
  refine Members.lawful_cons (list_lawful string_lawful) default_of_isEmpty_list (by decide) ?_
  refine Members.lawful_cons (list_lawful MessageDescriptor.codec_lawful) (by simp) (by decide) ?_
  exact Members.lawful_cons (list_lawful SourceSpan.codec_lawful) (by simp) (by decide) trivial

/-- Files of a schema are read back. -/
theorem SchemaFile.codec_lawful : SchemaFile.codec.Lawful := by
  refine record_lawful ?_ fun _ => rfl
  refine Members.lawful_cons FileDescriptor.codec_lawful (by simp) (by decide) ?_
  exact Members.lawful_cons bool_lawful (by simp) (by decide) trivial

/-! ## Checks -/

/-- Options are read back, key by key. -/
theorem optionCodec_lawful : optionCodec.Lawful := by
  refine record_lawful ?_ fun _ => rfl
  refine Members.lawful_cons string_lawful (by simp) (by decide) ?_
  exact Members.lawful_cons (list_lawful byte_lawful) (by simp) (by decide) trivial

/-- Places are read back. -/
theorem Place.codec_lawful : Place.codec.Lawful := by
  refine record_lawful ?_ fun _ => rfl
  refine Members.lawful_cons string_lawful (by simp) (by decide) ?_
  exact Members.lawful_cons SourcePath.codec_lawful (by simp) (by decide) trivial

/-- Findings are read back. -/
theorem FindingEntry.codec_lawful : FindingEntry.codec.Lawful := by
  have hplace := optional_lawful Place.codec_lawful Codec.record_encode_ne_null
  refine record_lawful ?_ fun _ => rfl
  refine Members.lawful_cons string_lawful (by simp) (by decide) ?_
  refine Members.lawful_cons string_lawful (by simp) (by decide) ?_
  refine Members.lawful_cons hplace default_of_isNone (by decide) ?_
  exact Members.lawful_cons hplace default_of_isNone (by decide) trivial

/-- Requests for a check are read back. -/
theorem CheckMessage.codec_lawful : CheckMessage.codec.Lawful := by
  refine record_lawful ?_ fun _ => rfl
  refine Members.lawful_cons (list_lawful SchemaFile.codec_lawful) (by simp) (by decide) ?_
  refine Members.lawful_cons (list_lawful SchemaFile.codec_lawful) (by simp) (by decide) ?_
  refine Members.lawful_cons (list_lawful optionCodec_lawful) (by simp) (by decide) ?_
  exact Members.lawful_cons (list_lawful string_lawful) (by simp) (by decide) trivial

/-- Replies to a check are read back. -/
theorem CheckReply.codec_lawful : CheckReply.codec.Lawful := by
  refine record_lawful ?_ fun _ => rfl
  exact Members.lawful_cons (list_lawful FindingEntry.codec_lawful) (by simp) (by decide) trivial

/-! ## Listings -/

/-- Requests for a page are read back. -/
theorem PageMessage.codec_lawful : PageMessage.codec.Lawful := by
  refine record_lawful ?_ fun _ => rfl
  refine Members.lawful_cons uint32_lawful (by simp) (by decide) ?_
  exact Members.lawful_cons string_lawful (by simp) (by decide) trivial

/-- Pages are read back when their entries are, whose name is not that of the token. -/
theorem PageReply.codec_lawful {α : Type} {name : String} {entry : Codec α} (h : entry.Lawful)
    (hn : name ≠ "next_page_token") : (PageReply.codec name entry).Lawful := by
  refine record_lawful ?_ fun _ => rfl
  refine Members.lawful_cons string_lawful (by simp) (by simpa [Members.names] using hn.symm) ?_
  exact Members.lawful_cons (list_lawful h) (by simp) (by simp [Members.names]) trivial

/-- Types of rules are read back from their names. -/
theorem RuleType.codec_lawful : RuleType.codec.Lawful :=
  enumeration_lawful (by rintro ⟨⟩ <;> decide) (by rintro ⟨⟩ ⟨⟩ <;> decide)

/-- Rules are read back. -/
theorem RuleEntry.codec_lawful : RuleEntry.codec.Lawful := by
  refine record_lawful ?_ fun _ => rfl
  refine Members.lawful_cons string_lawful (by simp) (by decide) ?_
  refine Members.lawful_cons (list_lawful string_lawful) (by simp) (by decide) ?_
  refine Members.lawful_cons bool_lawful (by simp) (by decide) ?_
  refine Members.lawful_cons string_lawful (by simp) (by decide) ?_
  refine Members.lawful_cons RuleType.codec_lawful (by simp) (by decide) ?_
  refine Members.lawful_cons bool_lawful (by simp) (by decide) ?_
  exact Members.lawful_cons (list_lawful string_lawful) (by simp) (by decide) trivial

/-- Categories are read back. -/
theorem Category.codec_lawful : Category.codec.Lawful := by
  refine record_lawful ?_ fun _ => rfl
  refine Members.lawful_cons string_lawful (by simp) (by decide) ?_
  refine Members.lawful_cons string_lawful (by simp) (by decide) ?_
  refine Members.lawful_cons bool_lawful (by simp) (by decide) ?_
  exact Members.lawful_cons (list_lawful string_lawful) (by simp) (by decide) trivial

/-- Pages of rules are read back. -/
theorem rulesReplyCodec_lawful : rulesReplyCodec.Lawful :=
  PageReply.codec_lawful RuleEntry.codec_lawful (by decide)

/-- Pages of categories are read back. -/
theorem categoriesReplyCodec_lawful : categoriesReplyCodec.Lawful :=
  PageReply.codec_lawful Category.codec_lawful (by decide)

/-! ## Faults -/

/-- Faults are read back with their codes. -/
theorem FaultMessage.codec_lawful : FaultMessage.codec.Lawful := by
  have hcode : FaultMessage.codeCodec.Lawful :=
    enumeration_lawful (by rintro ⟨⟩ <;> decide) (by rintro ⟨⟩ ⟨⟩ <;> decide)
  refine record_lawful ?_ fun _ => rfl
  refine Members.lawful_cons hcode (by simp) (by decide) ?_
  exact Members.lawful_cons string_lawful (by simp) (by decide) trivial

/-! ## All messages -/

/-- A codec reads each value back from the bytes that it writes for it, if these nest arrays and
objects no deeper than 127 levels, and answers with a JSON fault if they nest them deeper. -/
def Codec.ReadsBack {α : Type} (c : Codec α) : Prop :=
  ∀ a, ∃ detail, c.ofBytes (c.toBytes a)
    = if (c.encode a).depth ≤ 127 then .ok a else .error (.json detail)

/-- Every message and every part of a message is read back up to the greatest depth, and refused
beyond. -/
theorem messages_read_back :
    CheckMessage.codec.ReadsBack ∧ CheckReply.codec.ReadsBack ∧
    PageMessage.codec.ReadsBack ∧ rulesReplyCodec.ReadsBack ∧ categoriesReplyCodec.ReadsBack ∧
    FaultMessage.codec.ReadsBack ∧
    SchemaFile.codec.ReadsBack ∧ FileDescriptor.codec.ReadsBack ∧
    MessageDescriptor.codec.ReadsBack ∧ FieldDescriptor.codec.ReadsBack ∧
    SourceSpan.codec.ReadsBack ∧ optionCodec.ReadsBack ∧ FindingEntry.codec.ReadsBack ∧
    Place.codec.ReadsBack ∧ RuleEntry.codec.ReadsBack ∧ Category.codec.ReadsBack :=
  ⟨CheckMessage.codec_lawful.ofBytes_toBytes, CheckReply.codec_lawful.ofBytes_toBytes,
    PageMessage.codec_lawful.ofBytes_toBytes, rulesReplyCodec_lawful.ofBytes_toBytes,
    categoriesReplyCodec_lawful.ofBytes_toBytes, FaultMessage.codec_lawful.ofBytes_toBytes,
    SchemaFile.codec_lawful.ofBytes_toBytes, FileDescriptor.codec_lawful.ofBytes_toBytes,
    MessageDescriptor.codec_lawful.ofBytes_toBytes, FieldDescriptor.codec_lawful.ofBytes_toBytes,
    SourceSpan.codec_lawful.ofBytes_toBytes, optionCodec_lawful.ofBytes_toBytes,
    FindingEntry.codec_lawful.ofBytes_toBytes, Place.codec_lawful.ofBytes_toBytes,
    RuleEntry.codec_lawful.ofBytes_toBytes, Category.codec_lawful.ofBytes_toBytes⟩

end SchemaCheck
