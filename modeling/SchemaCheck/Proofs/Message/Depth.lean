import SchemaCheck.Proofs.Message.RoundTrip

/-!
# How deep messages are nested

Answers and requests for a page are nested a few levels, whatever is in them, so a client reads
every answer (`CheckReply.ofBytes_toBytes`, `PageReply.ofBytes_toBytes`). Only a request for a check
can be nested deep, by its files, and the rules that it names make no difference
(`Request.depth_message_eq`).
-/

namespace SchemaCheck

/-- Values are written with no more than a number of levels. -/
def Codec.Shallow {α : Type} (c : Codec α) (n : Nat) : Prop := ∀ a, (c.encode a).depth ≤ n

/-- All members are written with no more than a number of levels. -/
def Members.Shallow (n : Nat) : {α : Type} → Members α → Prop
  | _, .nil => True
  | _, .cons m rest => m.codec.Shallow n ∧ rest.Shallow n

/-- Items are no deeper than the deepest. -/
theorem Json.depthItems_le_iff {n : Nat} {js : List Json} :
    Json.depthItems js ≤ n ↔ ∀ j ∈ js, j.depth ≤ n := by
  induction js with
  | nil => simp [depthItems]
  | cons j js ih => rw [depthItems, Nat.max_le, ih, List.forall_mem_cons]

namespace Codec

variable {α β : Type} {n : Nat}

/-- Text takes no levels. -/
theorem string_shallow : string.Shallow n := fun _ => Nat.zero_le n

/-- A truth value takes no levels. -/
theorem bool_shallow : bool.Shallow n := fun _ => Nat.zero_le n

/-- A number takes no levels. -/
theorem number_shallow {toInt : α → Int} {ofInt? : Int → Option α} :
    (number toInt ofInt?).Shallow n := fun _ => Nat.zero_le n

/-- A name out of an enumeration takes no levels. -/
theorem enumeration_shallow {all : List α} {name : α → String} :
    (enumeration all name).Shallow n := fun _ => Nat.zero_le n

/-- A value that may be absent takes no more levels than it does when it is there. -/
theorem optional_shallow {c : Codec α} (h : c.Shallow n) : (optional c).Shallow n
  | none => Nat.zero_le n
  | some a => h a

/-- A list takes one level more than its items. -/
theorem list_shallow {c : Codec α} (h : c.Shallow n) : (list c).Shallow (n + 1) := by
  intro as
  have hitems : Json.depthItems (as.map c.encode) ≤ n :=
    Json.depthItems_le_iff.2 (List.forall_mem_map.2 fun a _ => h a)
  exact Nat.succ_le_succ hitems

/-- The members that are written are no deeper than members may be. -/
theorem depthMembers_encode_le : ∀ {α : Type} (ms : Members α) (a : α), ms.Shallow n →
    Json.depthMembers (Members.given (ms.encode a)) ≤ n
  | _, .nil, (), _ => Nat.zero_le n
  | _, .cons m rest, (a, b), h => by
    obtain ⟨hm, hrest⟩ := h
    have ih := depthMembers_encode_le rest b hrest
    rw [Members.encode]
    split
    · exact ih
    · exact Nat.max_le.2 ⟨hm a, ih⟩

/-- A record takes one level more than its members. -/
theorem record_shallow {members : Members β} {build : β → α} {parts : α → β}
    (h : members.Shallow n) : (record members build parts).Shallow (n + 1) :=
  fun a => Nat.succ_le_succ (depthMembers_encode_le members (parts a) h)

/-- A message that is nested no deeper than messages may be is read back. -/
theorem Lawful.reads {c : Codec α} (h : c.Lawful) {a : α} (hd : (c.encode a).depth ≤ 127) :
    c.ofBytes (c.toBytes a) = .ok a := by
  obtain ⟨detail, hread⟩ := h.ofBytes_toBytes a
  rw [hread, if_pos hd]

end Codec

open Codec

/-! ## Answers and pages -/

/-- A path is one list. -/
theorem SourcePath.codec_shallow : SourcePath.codec.Shallow 1 := list_shallow number_shallow

/-- A place holds a path. -/
theorem Place.codec_shallow : Place.codec.Shallow 2 :=
  record_shallow ⟨string_shallow, SourcePath.codec_shallow, trivial⟩

/-- A finding holds places. -/
theorem FindingEntry.codec_shallow : FindingEntry.codec.Shallow 3 :=
  record_shallow ⟨string_shallow, string_shallow, optional_shallow Place.codec_shallow,
    optional_shallow Place.codec_shallow, trivial⟩

/-- A reply holds a list of findings. -/
theorem CheckReply.codec_shallow : CheckReply.codec.Shallow 5 :=
  record_shallow ⟨list_shallow FindingEntry.codec_shallow, trivial⟩

/-- Every answer to a check is read back. -/
theorem CheckReply.ofBytes_toBytes (reply : CheckReply) :
    CheckReply.codec.ofBytes (CheckReply.codec.toBytes reply) = .ok reply :=
  CheckReply.codec_lawful.reads (Nat.le_trans (codec_shallow reply) (by decide))

/-- A request for a page holds text and a number. -/
theorem PageMessage.codec_shallow : PageMessage.codec.Shallow 1 :=
  record_shallow ⟨number_shallow, string_shallow, trivial⟩

/-- Every request for a page is read back. -/
theorem PageMessage.ofBytes_toBytes (m : PageMessage) :
    PageMessage.codec.ofBytes (PageMessage.codec.toBytes m) = .ok m :=
  PageMessage.codec_lawful.reads (Nat.le_trans (codec_shallow m) (by decide))

/-- A page takes two levels more than its entries: the list of them and itself. -/
theorem PageReply.codec_shallow {α : Type} {name : String} {entry : Codec α} {n : Nat}
    (h : entry.Shallow n) : (PageReply.codec name entry).Shallow (n + 2) :=
  record_shallow ⟨string_shallow, list_shallow h, trivial⟩

/-- A rule holds lists of identifiers. -/
theorem RuleEntry.codec_shallow : RuleEntry.codec.Shallow 2 :=
  record_shallow ⟨string_shallow, list_shallow string_shallow, bool_shallow, string_shallow,
    enumeration_shallow, bool_shallow, list_shallow string_shallow, trivial⟩

/-- A page of rules takes four levels, however many are on it. -/
theorem rulesReplyCodec_shallow : rulesReplyCodec.Shallow 4 :=
  PageReply.codec_shallow RuleEntry.codec_shallow

/-- Every page of rules is read back. -/
theorem RulesReply.ofBytes_toBytes (reply : RulesReply) :
    rulesReplyCodec.ofBytes (rulesReplyCodec.toBytes reply) = .ok reply :=
  rulesReplyCodec_lawful.reads (Nat.le_trans (rulesReplyCodec_shallow reply) (by decide))

/-- A category holds a list of identifiers. -/
theorem Category.codec_shallow : Category.codec.Shallow 2 :=
  record_shallow ⟨string_shallow, string_shallow, bool_shallow, list_shallow string_shallow,
    trivial⟩

/-- A page of categories takes four levels, however many are on it. -/
theorem categoriesReplyCodec_shallow : categoriesReplyCodec.Shallow 4 :=
  PageReply.codec_shallow Category.codec_shallow

/-- Every page of categories is read back. -/
theorem CategoriesReply.ofBytes_toBytes (reply : CategoriesReply) :
    categoriesReplyCodec.ofBytes (categoriesReplyCodec.toBytes reply) = .ok reply :=
  categoriesReplyCodec_lawful.reads (Nat.le_trans (categoriesReplyCodec_shallow reply) (by decide))

/-! ## Requests -/

/-- A list of texts takes one level, however long it is. -/
theorem depth_list_string (ts : List String) : ((list string).encode ts).depth = 1 := by
  have hitems : Json.depthItems (ts.map string.encode) = 0 := by
    induction ts with
    | nil => rfl
    | cons t ts ih =>
      rw [List.map_cons, Json.depthItems, ih]
      rfl
  show Json.depthItems (ts.map string.encode) + 1 = 1
  rw [hitems]

/-- The rules that a message names do not change how deep it is nested. -/
theorem Request.depth_message_eq (r : Request) (ids ids' : List String) :
    (CheckMessage.codec.encode (r.message ids)).depth
      = (CheckMessage.codec.encode (r.message ids')).depth := by
  have hdepth : ∀ ids, (CheckMessage.codec.encode (r.message ids)).depth
      = max ((list SchemaFile.codec).encode r.files).depth
        (max ((list SchemaFile.codec).encode r.againstFiles).depth
          (max ((list optionCodec).encode r.options.entries).depth
            (max ((list string).encode ids).depth 0))) + 1 := fun ids => rfl
  rw [hdepth, hdepth, depth_list_string, depth_list_string]

/-- A message of a request is read back when the message with all its rules is. -/
theorem Request.ofBytes_toBytes_message {r : Request}
    (h : (CheckMessage.codec.encode (r.message r.ruleIds)).depth ≤ 127) (ids : List String) :
    CheckMessage.codec.ofBytes (CheckMessage.codec.toBytes (r.message ids))
      = .ok (r.message ids) := by
  refine CheckMessage.codec_lawful.reads ?_
  rw [r.depth_message_eq ids r.ruleIds]
  exact h

end SchemaCheck
